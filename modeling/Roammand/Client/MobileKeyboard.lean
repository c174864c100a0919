import Roammand.Client.InputSender

/-!
# The keyboard controller of a mobile device

The keyboard of a mobile device works through the input sender of the session, which
it shares with the pointer gestures.  It queues operations and runs one at a time: the
change of a modifier, a special key with its press and its release, a text, or a release
of everything.  Cancelling raises a generation, so that an operation that was given up
sends nothing more.

An operation awaits a future of the sender.  When that future has completed, going on is
a step of its own, so anything may happen in between.  Everything else that happens to the
shared sender is a step too; only the keyboard sends keys.

Main results:

- Definition `MobileKeyboardController` with its operations.
- Definition `keyboardMachine`: the controller and its sender as a machine.
-/

namespace Roammand

namespace Client

open Library Host

/-! ## Keys -/

/-- The modifiers of the keyboard. -/
inductive MobileModifierKey where
  | control
  | shift
  | alt
  | command
  deriving DecidableEq

/-- The special keys of the keyboard. -/
inductive MobileSpecialKey where
  | escape
  | tab
  | arrowLeft
  | arrowUp
  | arrowRight
  | arrowDown

/-- The usage of a modifier. -/
def MobileModifierKey.usage : MobileModifierKey → Nat
  | .control => 0xe0
  | .shift => 0xe1
  | .alt => 0xe2
  | .command => 0xe3

/-- The bit of a modifier. -/
def MobileModifierKey.bits : MobileModifierKey → Nat
  | .control => 1 <<< 0
  | .shift => 1 <<< 1
  | .alt => 1 <<< 2
  | .command => 1 <<< 3

/-- The usage of a special key. -/
def MobileSpecialKey.usage : MobileSpecialKey → Nat
  | .escape => 0x29
  | .tab => 0x2b
  | .arrowRight => 0x4f
  | .arrowLeft => 0x50
  | .arrowDown => 0x51
  | .arrowUp => 0x52

/-- How many operations may wait, the active one included. -/
def maxPendingMobileKeyboardOperations : Nat := 32

/-- How many bytes of text may wait. -/
def maxPendingMobileKeyboardTextBytes : Int := 32768

/-! ## Operations -/

/-- A call of the sender. -/
inductive KeyboardCall where
  /-- The press or the release of a key. -/
  | key (down : Bool) (usage bits : Nat)
  | text (text : String)
  | release
  deriving DecidableEq

/-- Make a call. -/
def KeyboardCall.perform (channels : InputDataChannels) (call : KeyboardCall)
    (sender : RemoteInputSender) : RemoteInputSender × SenderFuture :=
  match call with
  | .key down usage bits =>
    sender.sendKeyboard channels (if down then .down else .up) usage bits
  | .text value => sender.sendText channels value
  | .release => sender.releaseAll channels

/-- What an operation does. -/
inductive KeyboardTask where
  | modifier (active : Bool) (usage bits : Nat)
  /-- The press and the release of a special key, in the generation of its caller. -/
  | special (usage bits generation : Nat)
  | text (text : String)
  | release

/-- The first call of an operation. -/
def KeyboardTask.first : KeyboardTask → KeyboardCall
  | .modifier active usage bits => .key active usage bits
  | .special usage bits _ => .key true usage bits
  | .text value => .text value
  | .release => .release

/-- The call after the first one, with the generation that allows it. -/
def KeyboardTask.second : KeyboardTask → Option (Nat × KeyboardCall)
  | .special usage bits generation => some (generation, .key false usage bits)
  | _ => none

/-- An operation.  Its number names its future and its timer. -/
structure KeyboardOperation where
  id : Nat
  task : KeyboardTask
  textBytes : Nat

/-- An operation that has been started and awaits a future of the sender. -/
structure KeyboardInvocation where
  id : Nat
  /-- The call that is still to come, with the generation that allows it. -/
  next : Option (Nat × KeyboardCall)
  awaited : SenderFuture

/-- What a call of the controller returns. -/
inductive KeyboardFuture where
  | done
  /-- It completes as the future of an operation does. -/
  | operation (id : Nat)
  | failed (code : InputSenderErrorCode)
  /-- The controller is closed. -/
  | closedError
  /-- It completes as a future of the sender does, but without its error. -/
  | sender (future : SenderFuture)

/-- The keyboard controller with the sender that it shares. -/
structure MobileKeyboardController where
  sender : RemoteInputSender
  activeModifiers : List MobileModifierKey
  pending : List KeyboardOperation
  active : Option KeyboardOperation
  closeFuture : Option SenderFuture
  lastOperation : KeyboardFuture
  pendingTextBytes : Int
  generation : Nat
  closed : Bool
  /-- The timers of operations that are running. -/
  timers : List Nat
  /-- The operations that have been started and have not gone on to their end. -/
  invocations : List KeyboardInvocation
  /-- Every operation that has been queued; its place is its number. -/
  operations : List KeyboardOperation
  /-- The futures of operations that have completed. -/
  completions : List (Nat × Option InputSenderErrorCode)
  /-- Every call of the sender, with the number of its operation. -/
  calls : List (Nat × KeyboardCall)

namespace MobileKeyboardController

/-- The controller of a sender. -/
def new (sender : RemoteInputSender) : MobileKeyboardController where
  sender := sender
  activeModifiers := []
  pending := []
  active := none
  closeFuture := none
  lastOperation := .done
  pendingTextBytes := 0
  generation := 0
  closed := false
  timers := []
  invocations := []
  operations := []
  completions := []
  calls := []

/-- The modifiers that are active, as bits. -/
def currentModifierBits (s : MobileKeyboardController) : Nat :=
  s.activeModifiers.foldl (fun bits modifier => bits ||| modifier.bits) 0

/-- Remember that a modifier is active, or that it is not. -/
def markModifier (modifier : MobileModifierKey) (active : Bool) (s : MobileKeyboardController) :
    MobileKeyboardController :=
  { s with
    activeModifiers :=
      if active then s.activeModifiers ++ [modifier] else s.activeModifiers.erase modifier }

/-- Forget the modifiers. -/
def clearModifiers (s : MobileKeyboardController) : MobileKeyboardController :=
  { s with activeModifiers := [] }

/-- The operations that have not come to their end, the active one first. -/
def waiting (s : MobileKeyboardController) : List KeyboardOperation :=
  s.active.toList ++ s.pending

variable (code : InputSenderErrorCode)

/-- Complete the future of an operation with an error, unless it has completed. -/
def completeError
    (completions : List (Nat × Option InputSenderErrorCode)) (operation : KeyboardOperation) :
    List (Nat × Option InputSenderErrorCode) :=
  if operation.id ∈ completions.map (·.1) then completions
  else completions ++ [(operation.id, some code)]

/-- Fail operations one after the other. -/
def failOperations (operations : List KeyboardOperation)
    (s : MobileKeyboardController) : MobileKeyboardController :=
  { s with
    timers := s.timers.filter fun id => id ∉ operations.map (·.id)
    completions := operations.foldl (completeError code) s.completions }

/-- Give up all operations, the active one included. -/
def cancelOperations (s : MobileKeyboardController) :
    MobileKeyboardController :=
  { failOperations code s.waiting s with
    generation := s.generation + 1
    active := none
    pending := []
    pendingTextBytes := 0 }

/-- End the controller and its sender. -/
def abort (s : MobileKeyboardController) : MobileKeyboardController :=
  if s.closed then s
  else
    let s := { s with closed := true }.clearModifiers.cancelOperations .channel
    { s with sender := s.sender.abort }

variable (channels : InputDataChannels)

/-- Make a call of an operation, and await its future. -/
def call (id : Nat) (call : KeyboardCall) (next : Option (Nat × KeyboardCall))
    (s : MobileKeyboardController) : MobileKeyboardController :=
  let (sender, awaited) := call.perform channels s.sender
  { s with
    sender
    invocations := s.invocations ++ [⟨id, next, awaited⟩]
    calls := s.calls ++ [(id, call)] }

/-- Start the first pending operation. -/
def pump (s : MobileKeyboardController) : MobileKeyboardController :=
  match s.pending with
  | [] => s
  | operation :: pending =>
    if s.closed ∨ s.active.isSome then s
    else
      { s with pending, active := some operation }.call channels operation.id
        operation.task.first operation.task.second

/-- The controller has no room for an operation. -/
def overflows (s : MobileKeyboardController) (textBytes : Nat) : Prop :=
  maxPendingMobileKeyboardOperations ≤ s.pending.length + (if s.active.isNone then 0 else 1) ∨
    maxPendingMobileKeyboardTextBytes < s.pendingTextBytes + textBytes

instance (s : MobileKeyboardController) (textBytes : Nat) : Decidable (s.overflows textBytes) :=
  inferInstanceAs (Decidable (_ ∨ _))

variable (task : KeyboardTask)

variable (textBytes : Nat)

/-- Put an operation at the end of the queue and start its timer. -/
def append (s : MobileKeyboardController) :
    MobileKeyboardController :=
  { s with
    timers := s.timers ++ [s.operations.length]
    pending := s.pending ++ [⟨s.operations.length, task, textBytes⟩]
    pendingTextBytes := s.pendingTextBytes + textBytes
    lastOperation := .operation s.operations.length
    operations := s.operations ++ [⟨s.operations.length, task, textBytes⟩] }

/-- Queue an operation. -/
def enqueue (s : MobileKeyboardController) :
    MobileKeyboardController × KeyboardFuture :=
  if s.overflows textBytes then (s.abort, .failed .channel)
  else ((s.append task textBytes).pump channels, .operation s.operations.length)

/-! ## Calls -/

/-- Press or release a modifier. -/
def setModifier (modifier : MobileModifierKey) (active : Bool) (s : MobileKeyboardController) :
    MobileKeyboardController × KeyboardFuture :=
  if s.closed then (s, .closedError)
  else if decide (modifier ∈ s.activeModifiers) = active then (s, s.lastOperation)
  else
    let s := s.markModifier modifier active
    s.enqueue channels (.modifier active modifier.usage s.currentModifierBits) 0

/-- Press and release a special key. -/
def sendSpecial (key : MobileSpecialKey) (s : MobileKeyboardController) :
    MobileKeyboardController × KeyboardFuture :=
  if s.closed then (s, .closedError)
  else s.enqueue channels (.special key.usage s.currentModifierBits s.generation) 0

/-- Send a text. -/
def sendText (text : String) (s : MobileKeyboardController) :
    MobileKeyboardController × KeyboardFuture :=
  if s.closed then (s, .closedError)
  else if text.utf8ByteSize = 0 ∨ maxRemoteTextInputBytes < text.utf8ByteSize then
    (s, .failed .invalidText)
  else s.enqueue channels (.text text) text.utf8ByteSize

/-- Release everything, in place of what is still to be done. -/
def releaseAll (s : MobileKeyboardController) : MobileKeyboardController × KeyboardFuture :=
  if s.closed then (s, (s.closeFuture.map .sender).getD .done)
  else (s.cancelOperations .cancelled).clearModifiers.enqueue channels .release 0

/-- Close the controller; the sender stays open, but everything is released. -/
def close (s : MobileKeyboardController) : MobileKeyboardController × KeyboardFuture :=
  match s.closeFuture with
  | some future => (s, .sender future)
  | none =>
    let s := (({ s with closed := true }.cancelOperations .cancelled)).clearModifiers
    let (sender, future) := s.sender.releaseAll channels
    ({ s with sender, closeFuture := some future }, .sender future)

/-! ## Going on -/

/-- How a future of the sender has completed. -/
def outcome (sender : RemoteInputSender) : SenderFuture → Option (Option InputSenderErrorCode)
  | .done => some none
  | .failed code => some (some code)
  | .task id => sender.completions.lookup id
  | _ => none

variable (id : Nat)

/-- An operation has come to its end.  Only the end of the active one matters. -/
def finish (error : Option InputSenderErrorCode) (s : MobileKeyboardController) :
    MobileKeyboardController :=
  match s.active with
  | none => s
  | some operation =>
    if operation.id ≠ id then s
    else
      match error with
      | none =>
        pump channels
          { s with
            active := none
            pendingTextBytes := s.pendingTextBytes - operation.textBytes
            timers := s.timers.erase id
            completions := s.completions ++ [(id, none)] }
      | some .cancelled => s.clearModifiers.cancelOperations .cancelled
      | some code =>
        abort
          { s with
            active := none
            pendingTextBytes := s.pendingTextBytes - operation.textBytes
            timers := s.timers.erase id
            completions := s.completions ++ [(id, some code)] }

/-- An operation goes on after the future that it awaits has completed.  The second call of
an operation that was given up is not made. -/
def resumeOperation (s : MobileKeyboardController) : MobileKeyboardController :=
  match s.invocations.find? (·.id = id) with
  | none => s
  | some invocation =>
    match outcome s.sender invocation.awaited with
    | none => s
    | some error =>
      let s := { s with invocations := s.invocations.filter (·.id ≠ id) }
      match error, invocation.next with
      | none, some (generation, next) =>
        if s.generation ≠ generation then s.finish channels id (some .cancelled)
        else s.call channels id next none
      | error, _ => s.finish channels id error

/-- The timer of an operation fires. -/
def operationTimeout (s : MobileKeyboardController) : MobileKeyboardController :=
  if id ∈ s.timers then abort { s with timers := s.timers.erase id } else s

end MobileKeyboardController

/-! ## The controller as a machine -/

/-- What others do with the shared sender: anything but sending keys. -/
def SharedAction : Type := { action : SenderAction // action.isKeyboard = false }

/-- What happens to the controller. -/
inductive KeyboardInput where
  | setModifier (modifier : MobileModifierKey) (active : Bool)
  | sendSpecial (key : MobileSpecialKey)
  | sendText (text : String)
  | releaseAll
  | close
  | resumeOperation (id : Nat)
  | operationTimeout (id : Nat)
  | shared (action : SharedAction)

/-- The operation behind an input. -/
def KeyboardInput.perform (channels : InputDataChannels) (input : KeyboardInput)
    (s : MobileKeyboardController) : MobileKeyboardController × KeyboardFuture :=
  match input with
  | .setModifier modifier active => s.setModifier channels modifier active
  | .sendSpecial key => s.sendSpecial channels key
  | .sendText text => s.sendText channels text
  | .releaseAll => s.releaseAll channels
  | .close => s.close channels
  | .resumeOperation id => (s.resumeOperation channels id, .done)
  | .operationTimeout id => (s.operationTimeout id, .done)
  | .shared action =>
    let (sender, future) := action.val.perform channels s.sender
    ({ s with sender }, .sender future)

/-- The controller as a machine.  An input says what the channels do and what happens. -/
def keyboardMachine :
    Machine MobileKeyboardController (InputDataChannels × KeyboardInput) KeyboardFuture where
  step s input := input.2.perform input.1 s

end Client

end Roammand
