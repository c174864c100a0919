import Roammand.Host.PeerSession
import Roammand.Library.Run
import Roammand.Protocol.Signaling

/-!
# The input sender of a controller

A controller sends button, key and text input over the reliable channel of a session.
Its sender queues what it is given, hands one envelope after the other to the
channel, and numbers an envelope only when it hands it over, because what is queued
can still be cancelled.  Pointer movement and scrolling go over a fast channel that
may lose them.  A send that fails or takes too long ends the sender for good.

A call returns a future.  The future of a queued event is the number of the event, and
the state records how the futures have completed, what each channel was handed and
which timers are running.  What the channels do during a call, and when a send ends, a
timer fires or an awaited call goes on, is chosen by the run.

Main results:

- Definition `RemoteInputSender` with its operations.
- Definition `senderMachine`: the sender as a machine.
-/

namespace Roammand

open Library Protocol

namespace Client

open Host

/-! ## The sender -/

/-- The generated encoder of the envelopes, by the length of what it writes. -/
structure InputEncoder where
  reliableBytes : ReliableInputEnvelope → Nat
  fastBytes : PointerFastEnvelope → Nat

/-- The longest envelope of the reliable channel. -/
def maxReliableInputEnvelopeBytes : Nat := 16384

/-- The longest envelope of the fast channel. -/
def maxPointerFastEnvelopeBytes : Nat := 256

/-- Movement is dropped when more than this waits in the fast channel. -/
def maxFastBufferedAmount : Int := 262144

/-- How many bytes may wait in the reliable channel. -/
def maxReliableBufferedAmount : Int := 65536

/-- A paused sender goes on when no more than this waits in the channel. -/
def reliableBufferedLowWatermark : Int := maxReliableBufferedAmount / 2

/-- How many events may wait in the sender. -/
def maxPendingReliableInputEvents : Nat := 64

/-- How many bytes may wait in the sender. -/
def maxPendingReliableInputBytes : Int := 65536

/-- The largest coordinate. -/
def remoteInputCoordinateMaximum : Int := 10000

/-- The longest text, in UTF-8 bytes. -/
def maxRemoteTextInputBytes : Nat := 1024

/-- The first usage of a key. -/
def minimumUsbHidUsage : Int := 0x04

/-- The last usage of a key. -/
def maximumUsbHidUsage : Int := 0xe7

/-- All modifiers. -/
def maximumModifierBits : Int := 0xff

/-- The largest step of a scroll. -/
def maxRemoteScrollDelta : Nat := 10000

/-- The buttons that a pointer movement may report. -/
def maximumPressedButtonBits : Int := 0x07

/-- The errors of the sender. -/
inductive InputSenderErrorCode where
  | invalidSession
  | invalidCoordinate
  | invalidUsage
  | invalidEnum
  | invalidText
  | invalidScroll
  | suspended
  | closed
  | channel
  | cancelled
  deriving DecidableEq

/-- An event that waits for the channel.  Its number names its future and its timer. -/
structure ReliableInputTask where
  id : Nat
  event : ReliableInputEvent
  budgetBytes : Nat

/-- The event releases what is pressed. -/
def ReliableInputTask.releasesInput (task : ReliableInputTask) : Bool :=
  task.event = .releaseAllInput

/-- A movement that waits for the next frame. -/
structure PendingPointerMove where
  x : Int
  y : Int
  pressedButtonBits : Int

/-- The event of a movement. -/
def PendingPointerMove.event (move : PendingPointerMove) : PointerFastEvent :=
  .move (.ofInt move.x) (.ofInt move.y) (.ofNat move.pressedButtonBits.toNat)

/-- How far closing has come: it awaits the release, then the control event. -/
inductive CloseProgress where
  | notCalled
  | releasing (id : Nat)
  | controlling (id : Nat)
  | finished (error : Option InputSenderErrorCode)

/-- The sender of one session. -/
structure RemoteInputSender where
  encoder : InputEncoder
  sessionId : Bytes
  reliableQueue : List ReliableInputTask
  activeReliable : Option ReliableInputTask
  /-- A retry is scheduled. -/
  reliableRetryTimer : Bool
  pendingReliableBytes : Int
  reliableFailed : Bool
  reliableBufferPaused : Bool
  reliableBufferReadInFlight : Bool
  reliableSequence : UInt64
  fastSequence : UInt64
  pendingMove : Option PendingPointerMove
  frameScheduled : Bool
  releaseSent : Bool
  suspended : Bool
  closed : Bool
  /-- The event of the fast channel whose send has not ended. -/
  fastSendInFlight : Option PointerFastEvent
  droppedPointerMoves : Nat
  closeFuture : CloseProgress
  /-- The timers of tasks that are running. -/
  timers : List Nat
  /-- Every event that has been queued; its place is the number of its task. -/
  accepted : List ReliableInputEvent
  /-- The futures of tasks that have completed. -/
  completions : List (Nat × Option InputSenderErrorCode)
  /-- What the reliable channel has been handed, with the numbers of the tasks. -/
  handedReliable : List (Nat × ReliableInputEnvelope)
  /-- What the fast channel has been handed. -/
  handedFast : List PointerFastEnvelope
  /-- How the sends on the fast channel have ended. -/
  fastOutcomes : List Bool

/-- What the channels do during one call. -/
structure InputDataChannels where
  /-- The amount that waits in the reliable channel can be asked for. -/
  refreshable : Bool
  /-- The amount that waits in the reliable channel, unless reading it fails. -/
  bufferedAmount : Option Int
  /-- The reliable channel takes an envelope. -/
  accepts : Bool
  /-- The amount that waits in the fast channel, unless reading it fails. -/
  fastBufferedAmount : Option Int

/-- What a call returns.  A call that throws is a future that has failed. -/
inductive SenderFuture where
  | done
  | failed (code : InputSenderErrorCode)
  /-- A failure that is not one of the sender. -/
  | broken
  /-- It completes as the future of a task does. -/
  | task (id : Nat)
  /-- It completes when a send on the fast channel ends. -/
  | fast (index : Nat)
  /-- It completes when closing has finished. -/
  | closing

namespace RemoteInputSender

variable (encoder : InputEncoder)

variable (sessionId : Bytes)

/-- A sender that has done nothing. -/
def initial : RemoteInputSender where
  encoder := encoder
  sessionId := sessionId
  reliableQueue := []
  activeReliable := none
  reliableRetryTimer := false
  pendingReliableBytes := 0
  reliableFailed := false
  reliableBufferPaused := false
  reliableBufferReadInFlight := false
  reliableSequence := 0
  fastSequence := 0
  pendingMove := none
  frameScheduled := false
  releaseSent := false
  suspended := false
  closed := false
  fastSendInFlight := none
  droppedPointerMoves := 0
  closeFuture := .notCalled
  timers := []
  accepted := []
  completions := []
  handedReliable := []
  handedFast := []
  fastOutcomes := []

/-- The sender of a new session. -/
def new :
    Except InputSenderErrorCode RemoteInputSender :=
  if sessionId.length ≠ sessionIdBytes then .error .invalidSession
  else .ok (initial encoder sessionId)

/-! ## The reliable queue -/

/-- The tasks that have not been settled, the active one first. -/
def pendingTasks (s : RemoteInputSender) : List ReliableInputTask :=
  s.activeReliable.toList ++ s.reliableQueue

/-- Complete the future of a task with an error, unless it has completed. -/
def completeError (code : InputSenderErrorCode)
    (completions : List (Nat × Option InputSenderErrorCode)) (task : ReliableInputTask) :
    List (Nat × Option InputSenderErrorCode) :=
  if task.id ∈ completions.map (·.1) then completions else completions ++ [(task.id, some code)]

/-- Fail tasks one after the other: their timers stop and their futures complete. -/
def failReliableTasks (code : InputSenderErrorCode) (tasks : List ReliableInputTask)
    (s : RemoteInputSender) : RemoteInputSender :=
  { s with
    timers := s.timers.filter fun id => id ∉ tasks.map (·.id)
    completions := tasks.foldl (completeError code) s.completions }

/-- End the sender. -/
def abort (s : RemoteInputSender) : RemoteInputSender :=
  if s.reliableFailed then s
  else
    { failReliableTasks .channel s.pendingTasks s with
      reliableFailed := true
      suspended := true
      pendingMove := none
      frameScheduled := false
      reliableRetryTimer := false
      activeReliable := none
      reliableQueue := []
      pendingReliableBytes := 0 }

/-- Cancel what is queued.  A release that is cancelled does not count as sent. -/
def cancelQueuedReliable (s : RemoteInputSender) : RemoteInputSender :=
  { failReliableTasks .cancelled s.reliableQueue s with
    reliableRetryTimer := false
    reliableQueue := []
    pendingReliableBytes :=
      s.pendingReliableBytes - ((s.reliableQueue.map (·.budgetBytes)).sum : Nat)
    releaseSent := s.releaseSent && !s.reliableQueue.any (·.releasesInput) }

/-- The sender has to wait before it hands an event to the channel. -/
def mustWait (s : RemoteInputSender) (task : ReliableInputTask) (bufferedAmount : Int) : Bool :=
  if s.reliableBufferPaused then reliableBufferedLowWatermark < bufferedAmount
  else maxReliableBufferedAmount < bufferedAmount + task.budgetBytes

/-- Wait until the channel has room. -/
def pauseReliable (s : RemoteInputSender) : RemoteInputSender :=
  { s with reliableBufferPaused := true, reliableRetryTimer := true }

/-- Give a task to the channel under the next number. -/
def handOver (task : ReliableInputTask) (queue : List ReliableInputTask)
    (s : RemoteInputSender) : RemoteInputSender :=
  { s with
    reliableBufferPaused := false
    reliableQueue := queue
    activeReliable := some task
    reliableSequence := s.reliableSequence + 1
    handedReliable := s.handedReliable ++ [(task.id,
      { sessionId := s.sessionId, sequence := s.reliableSequence + 1, event := some task.event })] }

variable (channels : InputDataChannels)

/-- Hand the first task of the queue to the channel.  A channel that throws ends the
sender. -/
def dispatchReliable (bufferedAmount : Int) (s : RemoteInputSender) : RemoteInputSender :=
  match s.reliableQueue with
  | [] => s
  | task :: queue =>
    if s.reliableFailed ∨ s.activeReliable.isSome then s
    else if s.mustWait task bufferedAmount then s.pauseReliable
    else if channels.accepts then s.handOver task queue
    else (s.handOver task queue).abort

/-- Go on with the queue. -/
def pumpReliable (s : RemoteInputSender) : RemoteInputSender :=
  if s.reliableFailed ∨ s.activeReliable.isSome ∨ s.reliableQueue = [] ∨
      s.reliableBufferReadInFlight then s
  else if s.reliableBufferPaused ∧ channels.refreshable then
    { s with reliableBufferReadInFlight := true }
  else
    match channels.bufferedAmount with
    | some bufferedAmount => s.dispatchReliable channels bufferedAmount
    | none => s.abort

/-- The size that is reserved for an event: that of the largest number. -/
def budgetBytes (s : RemoteInputSender) (event : ReliableInputEvent) : Nat :=
  s.encoder.reliableBytes { sessionId := s.sessionId, sequence := .ofInt (-1), event := some event }

/-- The sender has no room for an event. -/
def overflows (s : RemoteInputSender) (event : ReliableInputEvent) : Prop :=
  maxReliableInputEnvelopeBytes < s.budgetBytes event ∨
    maxPendingReliableInputEvents ≤
      s.reliableQueue.length + (if s.activeReliable.isNone then 0 else 1) ∨
    maxPendingReliableInputBytes < s.pendingReliableBytes + s.budgetBytes event

instance (s : RemoteInputSender) (event : ReliableInputEvent) : Decidable (s.overflows event) :=
  inferInstanceAs (Decidable (_ ∨ _))

/-- Put an event at the end of the queue and start its timer. -/
def enqueueReliable (event : ReliableInputEvent) (s : RemoteInputSender) : RemoteInputSender :=
  { s with
    timers := s.timers ++ [s.accepted.length]
    reliableQueue := s.reliableQueue ++ [⟨s.accepted.length, event, s.budgetBytes event⟩]
    pendingReliableBytes := s.pendingReliableBytes + s.budgetBytes event
    accepted := s.accepted ++ [event] }

/-- Queue an event. -/
def sendReliable (event : ReliableInputEvent) (s : RemoteInputSender) :
    RemoteInputSender × SenderFuture :=
  if s.reliableFailed then (s, .failed .channel)
  else if s.overflows event then (s.abort, .failed .channel)
  else ((s.enqueueReliable event).pumpReliable channels, .task s.accepted.length)

/-! ## The fast channel -/

/-- Ask for a frame if a movement waits for one. -/
def schedulePendingPointerMove (s : RemoteInputSender) : RemoteInputSender :=
  if s.closed ∨ s.suspended ∨ s.pendingMove = none ∨ s.frameScheduled ∨
      s.fastSendInFlight.isSome then s
  else { s with frameScheduled := true }

/-- Forget the movement that waits. -/
def dropPendingMove (s : RemoteInputSender) : RemoteInputSender :=
  { s with pendingMove := none, frameScheduled := false }

/-- Give an event to the fast channel under the next number.  One that is too long
counts as a send that fails. -/
def sendFast (event : PointerFastEvent) (s : RemoteInputSender) : RemoteInputSender :=
  { s with
    fastSendInFlight := some event
    fastSequence := s.fastSequence + 1
    handedFast :=
      let envelope : PointerFastEnvelope :=
        { sessionId := s.sessionId, sequence := s.fastSequence + 1, event := some event }
      if maxPointerFastEnvelopeBytes < s.encoder.fastBytes envelope then s.handedFast
      else s.handedFast ++ [envelope] }

/-- Send an event over the fast channel, unless the channel is busy. -/
def sendFastBestEffort (event : PointerFastEvent) (s : RemoteInputSender) :
    RemoteInputSender × SenderFuture :=
  if s.fastSendInFlight.isSome then (s, .done)
  else
    match channels.fastBufferedAmount with
    | none => (s, .broken)
    | some amount =>
      if maxFastBufferedAmount < amount then (s, .done)
      else (s.sendFast event, .fast s.fastOutcomes.length)

/-- Send the movement that waits. -/
def flushPointerMove (s : RemoteInputSender) : RemoteInputSender :=
  match s.pendingMove with
  | none => s.dropPendingMove
  | some move =>
    if s.closed ∨ s.suspended then s.dropPendingMove
    else if s.fastSendInFlight.isSome then { s with frameScheduled := false }
    else
      match channels.fastBufferedAmount with
      | none => s.dropPendingMove
      | some amount =>
        if maxFastBufferedAmount < amount then
          { s.dropPendingMove with droppedPointerMoves := s.droppedPointerMoves + 1 }
        else (s.dropPendingMove.sendFastBestEffort channels move.event).1

/-- A send on the fast channel has ended. -/
def fastCompleted (sent : Bool) (s : RemoteInputSender) : RemoteInputSender :=
  match s.fastSendInFlight with
  | none => s
  | some event =>
    let s := schedulePendingPointerMove
      { s with fastSendInFlight := none, fastOutcomes := s.fastOutcomes ++ [sent] }
    match event with
    | .move .. => if sent then s else { s with droppedPointerMoves := s.droppedPointerMoves + 1 }
    | .scroll .. => s

/-! ## Input -/

/-- Why input is refused: the sender is closed, has failed or is suspended. -/
def ensureOpen (s : RemoteInputSender) : Except InputSenderErrorCode Unit := do
  ensure (s.closed = false) .closed
  ensure (s.reliableFailed = false) .channel
  ensure (s.suspended = false) .suspended

theorem ensureOpen_eq_ok {s : RemoteInputSender} {u : Unit} :
    s.ensureOpen = .ok u ↔
      s.closed = false ∧ s.reliableFailed = false ∧ s.suspended = false := by
  simp only [ensureOpen, bind_eq_ok, ensure_eq_ok]
  constructor
  · rintro ⟨_, hclosed, _, hfailed, hsuspended⟩
    exact ⟨hclosed, hfailed, hsuspended⟩
  · rintro ⟨hclosed, hfailed, hsuspended⟩
    exact ⟨(), hclosed, (), hfailed, hsuspended⟩

/-- Both coordinates are in the normalized range. -/
def validateCoordinate (x y : Int) : Except InputSenderErrorCode Unit :=
  ensure ((0 ≤ x ∧ x ≤ remoteInputCoordinateMaximum) ∧
    0 ≤ y ∧ y ≤ remoteInputCoordinateMaximum) .invalidCoordinate

/-- Input has followed the last release. -/
def clearRelease (s : RemoteInputSender) : RemoteInputSender := { s with releaseSent := false }

variable (button : PointerButton) (action : ButtonAction)

/-- A button event. -/
def sendPointerButton (x y : Int) (s : RemoteInputSender) : RemoteInputSender × SenderFuture :=
  match s.ensureOpen with
  | .error code => (s, .failed code)
  | .ok _ =>
    let s := s.clearRelease
    match validateCoordinate x y with
    | .error code => (s, .failed code)
    | .ok _ =>
      if button = .unspecified ∨ action = .unspecified then (s, .failed .invalidEnum)
      else s.sendReliable channels
        (.pointerButton button.toInt32 action.toInt32 (.ofInt x) (.ofInt y))

/-- A click, which is a button event with one of two actions. -/
def sendPointerClick (x y : Int) (s : RemoteInputSender) : RemoteInputSender × SenderFuture :=
  if action ≠ .click ∧ action ≠ .doubleClick then (s, .failed .invalidEnum)
  else s.sendPointerButton channels button action x y

/-- A key event. -/
def sendKeyboard (action : KeyboardAction) (usbHidUsage modifierBits : Int)
    (s : RemoteInputSender) : RemoteInputSender × SenderFuture :=
  match s.ensureOpen with
  | .error code => (s, .failed code)
  | .ok _ =>
    let s := s.clearRelease
    if action = .unspecified then (s, .failed .invalidEnum)
    else if usbHidUsage < minimumUsbHidUsage ∨ maximumUsbHidUsage < usbHidUsage ∨
        modifierBits < 0 ∨ maximumModifierBits < modifierBits then (s, .failed .invalidUsage)
    else s.sendReliable channels
      (.keyboard action.toInt32 (.ofNat usbHidUsage.toNat) (.ofNat modifierBits.toNat))

/-- A text. -/
def sendText (text : String) (s : RemoteInputSender) : RemoteInputSender × SenderFuture :=
  match s.ensureOpen with
  | .error code => (s, .failed code)
  | .ok _ =>
    if text.utf8ByteSize = 0 ∨ maxRemoteTextInputBytes < text.utf8ByteSize then
      (s, .failed .invalidText)
    else s.clearRelease.sendReliable channels (.text text)

/-- A scroll. -/
def sendScroll (deltaX deltaY : Int) (s : RemoteInputSender) : RemoteInputSender × SenderFuture :=
  match s.ensureOpen with
  | .error code => (s, .failed code)
  | .ok _ =>
    if maxRemoteScrollDelta < deltaX.natAbs ∨ maxRemoteScrollDelta < deltaY.natAbs then
      (s, .failed .invalidScroll)
    else s.clearRelease.sendFastBestEffort channels (.scroll (.ofInt deltaX) (.ofInt deltaY))

/-- A movement of the pointer; the newest one waits for the next frame. -/
def queuePointerMove (x y pressedButtonBits : Int) (s : RemoteInputSender) :
    RemoteInputSender × SenderFuture :=
  match s.ensureOpen with
  | .error code => (s, .failed code)
  | .ok _ =>
    let s := s.clearRelease
    match validateCoordinate x y with
    | .error code => (s, .failed code)
    | .ok _ =>
      if pressedButtonBits < 0 ∨ maximumPressedButtonBits < pressedButtonBits then
        (s, .failed .invalidEnum)
      else
        (schedulePendingPointerMove { s with pendingMove := some ⟨x, y, pressedButtonBits⟩ }, .done)

/-! ## Release, suspension and end -/

/-- Release what is pressed, in place of what is still queued. -/
def releaseAll (s : RemoteInputSender) : RemoteInputSender × SenderFuture :=
  if s.closed ∨ s.releaseSent then (s, .done)
  else
    { s.dropPendingMove.cancelQueuedReliable with releaseSent := true }.sendReliable channels
      .releaseAllInput

/-- Block input until the peer is back. -/
def suspend (s : RemoteInputSender) : RemoteInputSender × SenderFuture :=
  if s.closed ∨ s.suspended then (s, .done)
  else { s.dropPendingMove with suspended := true }.releaseAll channels

/-- The peer is back. -/
def resume (s : RemoteInputSender) : RemoteInputSender × SenderFuture :=
  if s.closed ∨ s.reliableFailed then (s, .failed .closed)
  else ({ s with suspended := false }, .done)

/-- The event that asks the Host to close the session. -/
def closeEvent : ReliableInputEvent := .sessionControl 1

/-- Closing waits for a future, or ends with its error. -/
def awaitClose (progress : Nat → CloseProgress) :
    RemoteInputSender × SenderFuture → RemoteInputSender
  | (s, .task id) => { s with closeFuture := progress id }
  | (s, .failed code) => { s with closeFuture := .finished (some code) }
  | (s, _) => { s with closeFuture := .finished none }

/-- Ask the Host to close the session, as the last step of closing. -/
def sendClose (s : RemoteInputSender) : RemoteInputSender :=
  awaitClose .controlling (s.sendReliable channels closeEvent)

/-- Close the sender: what is pressed is released first. -/
def close (s : RemoteInputSender) : RemoteInputSender × SenderFuture :=
  if s.closed then (s, .closing)
  else
    let s := { s with closed := true }.cancelQueuedReliable.dropPendingMove
    if s.reliableFailed then ({ s with closeFuture := .finished none }, .closing)
    else if s.releaseSent then (s.sendClose channels, .closing)
    else
      (awaitClose .releasing
        ({ s with releaseSent := true }.sendReliable channels .releaseAllInput), .closing)

/-- Closing goes on when what it awaits has completed. -/
def continueClose (s : RemoteInputSender) : RemoteInputSender :=
  match s.closeFuture with
  | .releasing id =>
    match s.completions.lookup id with
    | none => s
    | some none => s.sendClose channels
    | some (some code) => { s with closeFuture := .finished (some code) }
  | .controlling id =>
    match s.completions.lookup id with
    | none => s
    | some result => { s with closeFuture := .finished result }
  | _ => s

/-! ## Answers of the channel and timers -/

/-- The channel has sent a task.  A late answer for a task that was given up is ignored. -/
def sendCompleted (id : Nat) (s : RemoteInputSender) : RemoteInputSender :=
  match s.activeReliable with
  | none => s
  | some task =>
    if s.reliableFailed ∨ task.id ≠ id then s
    else pumpReliable channels
      { s with
        activeReliable := none
        pendingReliableBytes := s.pendingReliableBytes - task.budgetBytes
        timers := s.timers.erase task.id
        completions := s.completions ++ [(task.id, none)] }

/-- The time for a retry has come. -/
def retry (s : RemoteInputSender) : RemoteInputSender :=
  if s.reliableRetryTimer then pumpReliable channels { s with reliableRetryTimer := false }
  else s

/-- The amount that waits in the channel has been read, or reading it has failed or
taken too long. -/
def bufferedAmountRead (result : Option Int) (s : RemoteInputSender) : RemoteInputSender :=
  if s.reliableBufferReadInFlight then
    match result with
    | some bufferedAmount =>
      dispatchReliable channels bufferedAmount { s with reliableBufferReadInFlight := false }
    | none => abort { s with reliableBufferReadInFlight := false }
  else s

/-- The timer of a task fires. -/
def timeout (id : Nat) (s : RemoteInputSender) : RemoteInputSender :=
  if id ∈ s.timers then abort { s with timers := s.timers.erase id } else s

end RemoteInputSender

/-! ## The sender as a machine -/

/-- What happens to the sender: a call of its owner, a timer, or an answer of a
channel. -/
inductive SenderAction where
  | pointerButton (button : PointerButton) (action : ButtonAction) (x y : Int)
  | pointerClick (button : PointerButton) (action : ButtonAction) (x y : Int)
  | keyboard (action : KeyboardAction) (usbHidUsage modifierBits : Int)
  | text (text : String)
  | scroll (deltaX deltaY : Int)
  | pointerMove (x y pressedButtonBits : Int)
  | releaseAll
  | suspend
  | resume
  | close
  | continueClose
  | sendCompleted (id : Nat)
  /-- A send has failed, or the owner gives up. -/
  | abort
  | retry
  | bufferedAmountRead (result : Option Int)
  | timeout (id : Nat)
  | frame
  | fastCompleted (sent : Bool)
  deriving DecidableEq

/-- The action sends a key. -/
def SenderAction.isKeyboard : SenderAction → Bool
  | .keyboard .. => true
  | _ => false

/-- The operation behind an action. -/
def SenderAction.perform (channels : InputDataChannels) (action : SenderAction)
    (s : RemoteInputSender) : RemoteInputSender × SenderFuture :=
  match action with
  | .pointerButton button action x y => s.sendPointerButton channels button action x y
  | .pointerClick button action x y => s.sendPointerClick channels button action x y
  | .keyboard action usbHidUsage modifierBits =>
    s.sendKeyboard channels action usbHidUsage modifierBits
  | .text value => s.sendText channels value
  | .scroll deltaX deltaY => s.sendScroll channels deltaX deltaY
  | .pointerMove x y pressedButtonBits => s.queuePointerMove x y pressedButtonBits
  | .releaseAll => s.releaseAll channels
  | .suspend => s.suspend channels
  | .resume => s.resume
  | .close => s.close channels
  | .continueClose => (s.continueClose channels, .done)
  | .sendCompleted id => (s.sendCompleted channels id, .done)
  | .abort => (s.abort, .done)
  | .retry => (s.retry channels, .done)
  | .bufferedAmountRead result => (s.bufferedAmountRead channels result, .done)
  | .timeout id => (s.timeout id, .done)
  | .frame => (s.flushPointerMove channels, .done)
  | .fastCompleted sent => (s.fastCompleted sent, .done)

/-- The sender as a machine.  An input says what the channels do and what happens. -/
def senderMachine : Machine RemoteInputSender (InputDataChannels × SenderAction) SenderFuture where
  step s input := input.2.perform input.1 s

end Client

end Roammand
