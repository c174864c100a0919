import Roammand.Library.Run
import Mathlib.Data.Rat.Defs

/-!
# The mobile gesture machine

The mobile controller turns raw contacts into clicks, drags, scrolls and zooms.  One
finger taps or, held long enough, drags; two fingers tap, scroll or pinch; a third one
gives up, and from then on contacts are ignored until all of them are gone.  Timers tell
a long press, close the window of a double tap and end the wait for a classification.

Positions are pairs of floating-point numbers, whose arithmetic is a parameter: no
result depends on how it rounds.  The timers run on a clock of their own, which is not
the one of the contacts' time stamps, and fire late but in the order they are due.

Main results:

- Definition `MobileGestureMachine` with its operations.
- Definition `MobileGestureMachine.machine`: one input for each event, with the time
  that has passed before it.
-/

namespace Roammand

namespace Client

open Library

/-! ## Positions -/

/-- The floating-point operations on positions. -/
structure Doubles (F : Type) where
  literal : Rat → F
  isFinite : F → Bool
  add : F → F → F
  sub : F → F → F
  div : F → F → F
  abs : F → F
  max : F → F → F
  hypot : F → F → F
  lt : F → F → Bool
  le : F → F → Bool
  eq : F → F → Bool

/-- A position on the surface. -/
structure Offset (F : Type) where
  dx : F
  dy : F
  deriving DecidableEq

section Geometry

variable {F : Type} (R : Doubles F)

/-- The difference of two positions. -/
def Offset.sub (left right : Offset F) : Offset F :=
  ⟨R.sub left.dx right.dx, R.sub left.dy right.dy⟩

/-- The distance of two positions. -/
def Offset.distance (left right : Offset F) : F :=
  R.hypot (left.sub R right).dx (left.sub R right).dy

/-- A position has finite coordinates. -/
def Offset.valid (position : Offset F) : Bool :=
  R.isFinite position.dx && R.isFinite position.dy

/-- No difference. -/
def Offset.isZero (delta : Offset F) : Bool :=
  R.eq delta.dx (R.literal 0) && R.eq delta.dy (R.literal 0)

end Geometry

/-! ## Limits

Durations are in microseconds. -/

def mobileTapMaximumDuration : Nat := 250000
def mobileDoubleTapInterval : Nat := 300000
def mobileLongPressDelay : Nat := 500000
def mobileTwoFingerTapMaximumDuration : Nat := 300000
def mobileTwoFingerClassificationDelay : Nat := 32000
def mobileDoubleTapMaximumDistance : Rat := 24
def mobileLongPressMovementTolerance : Rat := 12
def mobileTwoFingerMovementTolerance : Rat := 16
def mobilePinchScaleThreshold : Rat := 1 / 25
def mobileScrollStartDistance : Rat := 8
def mobileGestureClassificationMovement : Rat := 1

/-! ## Actions -/

/-- Kinds of clicks. -/
inductive MobileClickKind where
  | leftClick
  | leftDoubleClick
  | rightClick
  deriving DecidableEq

/-- Phases of a drag. -/
inductive MobileDragPhase where
  | down
  | move
  | up
  deriving DecidableEq

/-- Phases of a zoom. -/
inductive MobileZoomPhase where
  | start
  | update
  | end
  deriving DecidableEq

/-- What the machine tells the surface to do. -/
inductive MobileGestureAction (F : Type) where
  | click (kind : MobileClickKind) (position : Offset F)
  | drag (phase : MobileDragPhase) (position : Offset F)
  | scroll (delta : Offset F)
  | zoom (phase : MobileZoomPhase) (focalPoint : Offset F) (scale : F)
  | release
  deriving DecidableEq

/-! ## The state -/

/-- A contact on the surface. -/
structure Contact (F : Type) where
  start : Offset F
  current : Offset F

/-- The contacts by pointer, in the order in which they came. -/
abbrev Contacts (F : Type) := List (Int × Contact F)

/-- The contact of a single-finger gesture. -/
structure SingleContact (F : Type) where
  pointer : Int
  downTime : Int
  start : Offset F
  current : Offset F

/-- A tap that may become a double tap. -/
structure PendingTap (F : Type) where
  position : Offset F
  timeStamp : Int

/-- What two fingers do. -/
inductive TwoFingerMode where
  | undecided
  | pinch
  | scroll
  deriving DecidableEq

/-- A two-finger gesture.  The number stands for the identity of the object. -/
structure TwoFingerGesture (F : Type) where
  number : Nat
  initial : List (Int × Offset F)
  timeStamp : Int
  startCentroid : Offset F
  startDistance : F
  centroid : Offset F
  previousCentroid : Offset F
  currentDistance : F
  maximumMovement : F
  mode : TwoFingerMode

/-- A live timer of the long press, with the pointer it was started for. -/
structure LongPressTimer where
  due : Nat
  pointer : Int

/-- A live timer of the classification, with the gesture it was started for. -/
structure ClassificationTimer where
  due : Nat
  gesture : Nat

/-- The machine, the clock of its timers and the actions it has emitted.  A timer is
kept while it is live: it is dropped when it is cancelled or fires. -/
structure MobileGestureMachine (F : Type) where
  contacts : Contacts F
  single : Option (SingleContact F)
  longPressTimer : Option LongPressTimer
  pendingTapTimer : Option Nat
  twoFingerClassificationTimer : Option ClassificationTimer
  pendingTap : Option (PendingTap F)
  twoFinger : Option (TwoFingerGesture F)
  singleMoved : Bool
  dragging : Bool
  ignoreUntilClear : Bool
  releaseEmitted : Bool
  disposed : Bool
  gestures : Nat
  clock : Nat
  actions : List (MobileGestureAction F)

namespace Contacts

variable {F : Type}

/-- The pointers in contact. -/
def pointers (contacts : Contacts F) : List Int := contacts.map (·.1)

/-- The contact of a pointer. -/
def get? (contacts : Contacts F) (pointer : Int) : Option (Contact F) :=
  (contacts.find? fun entry => entry.1 = pointer).map (·.2)

/-- The contact of a pointer has moved. -/
def moveTo (contacts : Contacts F) (pointer : Int) (position : Offset F) : Contacts F :=
  contacts.map fun entry =>
    if entry.1 = pointer then (entry.1, { entry.2 with current := position }) else entry

/-- The pointer is not in contact any more. -/
def remove (contacts : Contacts F) (pointer : Int) : Contacts F :=
  contacts.filter fun entry => entry.1 ≠ pointer

end Contacts

namespace TwoFingerGesture

variable {F : Type} (R : Doubles F)

/-- The point between the first two contacts.  A two-finger gesture has two of them. -/
def centroidOf : Contacts F → Offset F
  | (_, a) :: (_, b) :: _ =>
    ⟨R.div (R.add a.current.dx b.current.dx) (R.literal 2),
      R.div (R.add a.current.dy b.current.dy) (R.literal 2)⟩
  | _ => ⟨R.literal 0, R.literal 0⟩

/-- The distance of the first two contacts. -/
def contactDistance : Contacts F → F
  | (_, a) :: (_, b) :: _ => a.current.distance R b.current
  | _ => R.literal 0

/-- A new gesture of these contacts. -/
def ofContacts (number : Nat) (contacts : Contacts F) (timeStamp : Int) : TwoFingerGesture F where
  number := number
  initial := contacts.map fun entry => (entry.1, entry.2.current)
  timeStamp := timeStamp
  startCentroid := centroidOf R contacts
  startDistance := contactDistance R contacts
  centroid := centroidOf R contacts
  previousCentroid := centroidOf R contacts
  currentDistance := contactDistance R contacts
  maximumMovement := R.literal 0
  mode := .undecided

variable (gesture : TwoFingerGesture F)

/-- How far the fingers have moved apart. -/
def scale : F :=
  if R.le gesture.startDistance (R.literal 0) then R.literal 1
  else R.div gesture.currentDistance gesture.startDistance

/-- Both fingers have moved. -/
def readyForClassification (contacts : Contacts F) : Bool :=
  gesture.initial.all fun entry =>
    match contacts.get? entry.1 with
    | none => false
    | some contact => R.le (R.literal mobileGestureClassificationMovement)
        (entry.2.distance R contact.current)

/-- The fingers have moved. -/
def update (contacts : Contacts F) : TwoFingerGesture F :=
  { gesture with
    centroid := centroidOf R contacts
    currentDistance := contactDistance R contacts
    maximumMovement := contacts.foldl (fun movement entry =>
      match (gesture.initial.find? fun start => start.1 = entry.1) with
      | none => movement
      | some start => R.max movement (start.2.distance R entry.2.current))
      gesture.maximumMovement }

/-- The fingers have moved far enough apart, or together, for a pinch. -/
def pinches : Bool :=
  R.le (R.literal mobilePinchScaleThreshold) (R.abs (R.sub (gesture.scale R) (R.literal 1)))

/-- The fingers have moved far enough for a scroll. -/
def scrolls : Bool :=
  R.le (R.literal mobileScrollStartDistance) (gesture.centroid.distance R gesture.startCentroid)

end TwoFingerGesture

namespace MobileGestureMachine

variable {F : Type} (R : Doubles F)

/-- A new machine. -/
def initial : MobileGestureMachine F where
  contacts := []
  single := none
  longPressTimer := none
  pendingTapTimer := none
  twoFingerClassificationTimer := none
  pendingTap := none
  twoFinger := none
  singleMoved := false
  dragging := false
  ignoreUntilClear := false
  releaseEmitted := false
  disposed := false
  gestures := 0
  clock := 0
  actions := []

/-! ## Parts of the operations -/

/-- Emit an action. -/
def onAction (action : MobileGestureAction F) (m : MobileGestureMachine F) :
    MobileGestureMachine F :=
  { m with actions := m.actions ++ [action] }

/-- End the wait for a long press. -/
def cancelLongPress (m : MobileGestureMachine F) : MobileGestureMachine F :=
  { m with longPressTimer := none }

/-- End the wait for a classification. -/
def cancelTwoFingerClassification (m : MobileGestureMachine F) : MobileGestureMachine F :=
  { m with twoFingerClassificationTimer := none }

/-- End the single-finger gesture. -/
def clearSingle (m : MobileGestureMachine F) : MobileGestureMachine F :=
  { cancelLongPress m with single := none, singleMoved := false, dragging := false }

/-- Give up all gestures.  Every caller asks for a release, which is not repeated before
the next contact. -/
def cancelActiveState (m : MobileGestureMachine F) : MobileGestureMachine F :=
  let m := cancelTwoFingerClassification (cancelLongPress m)
  let m := clearSingle
    { m with
      pendingTapTimer := none
      pendingTap := none
      contacts := []
      twoFinger := none
      ignoreUntilClear := false }
  if m.releaseEmitted then m else onAction .release { m with releaseEmitted := true }

variable (gesture : TwoFingerGesture F) (pointer : Int) (position : Offset F) (timeStamp : Int)

/-- Begin a single-finger gesture. -/
def beginSingle (m : MobileGestureMachine F) : MobileGestureMachine F :=
  { m with
    single := some { pointer, downTime := timeStamp, start := position, current := position }
    singleMoved := false
    dragging := false
    longPressTimer := some { due := m.clock + mobileLongPressDelay, pointer } }

/-- Emit the click of the pending tap. -/
def emitPendingTap (m : MobileGestureMachine F) : MobileGestureMachine F :=
  let cleared := { m with pendingTapTimer := none, pendingTap := none }
  match m.pendingTap with
  | none => cleared
  | some pending =>
    if m.disposed then cleared else onAction (.click .leftClick pending.position) cleared

/-- A tap follows the pending one in time and place. -/
def isDoubleTap (pending : PendingTap F) (position : Offset F) (timeStamp : Int) : Bool :=
  timeStamp - pending.timeStamp ≤ mobileDoubleTapInterval ∧
    R.le (position.distance R pending.position) (R.literal mobileDoubleTapMaximumDistance)

/-- A tap waits for a second one. -/
def waitForSecondTap (m : MobileGestureMachine F) :
    MobileGestureMachine F :=
  { m with
    pendingTap := some { position, timeStamp }
    pendingTapTimer := some (m.clock + mobileDoubleTapInterval) }

/-- A tap has been recognised. -/
def handleTap (m : MobileGestureMachine F) :
    MobileGestureMachine F :=
  match m.pendingTap with
  | none => waitForSecondTap position timeStamp m
  | some pending =>
    if isDoubleTap R pending position timeStamp then
      onAction (.click .leftDoubleClick position)
        { m with pendingTapTimer := none, pendingTap := none }
    else waitForSecondTap position timeStamp (emitPendingTap m)

/-- Decide about a two-finger gesture that is still undecided. -/
def classify (m : MobileGestureMachine F) :
    TwoFingerGesture F × MobileGestureMachine F :=
  if gesture.mode = .undecided then
    if gesture.pinches R then
      ({ gesture with mode := .pinch },
        onAction (.zoom .start gesture.startCentroid (R.literal 1)) m)
    else if gesture.scrolls R then ({ gesture with mode := .scroll }, m)
    else (gesture, m)
  else (gesture, m)

/-- Emit what a two-finger gesture does. -/
def emitTwoFinger (m : MobileGestureMachine F) :
    MobileGestureMachine F :=
  match gesture.mode with
  | .undecided => m
  | .pinch => onAction (.zoom .update gesture.centroid (gesture.scale R)) m
  | .scroll =>
    let delta := gesture.centroid.sub R gesture.previousCentroid
    if delta.isZero R then m else onAction (.scroll delta) m

/-- Decide about a two-finger gesture and emit what it does. -/
def classifyAndEmitTwoFinger (m : MobileGestureMachine F) :
    MobileGestureMachine F :=
  let (gesture, m) := classify R gesture m
  { emitTwoFinger R gesture m with
    twoFinger := some { gesture with previousCentroid := gesture.centroid } }

/-- Wait for the second finger before deciding. -/
def scheduleTwoFingerClassification (m : MobileGestureMachine F) :
    MobileGestureMachine F :=
  if m.twoFingerClassificationTimer.isSome ∨ ¬ (gesture.pinches R ∨ gesture.scrolls R) then m
  else { m with
    twoFingerClassificationTimer := some
      { due := m.clock + mobileTwoFingerClassificationDelay, gesture := gesture.number } }

/-- A finger of a two-finger gesture has moved. -/
def updateTwoFinger (m : MobileGestureMachine F) :
    MobileGestureMachine F :=
  let gesture := gesture.update R m.contacts
  let m := { m with twoFinger := some gesture }
  if gesture.mode = .undecided then
    if gesture.readyForClassification R m.contacts then
      classifyAndEmitTwoFinger R gesture (cancelTwoFingerClassification m)
    else scheduleTwoFingerClassification R gesture m
  else classifyAndEmitTwoFinger R gesture m

/-- A finger of a two-finger gesture has been lifted. -/
def finishTwoFinger (m : MobileGestureMachine F) : MobileGestureMachine F :=
  match gesture.mode with
  | .undecided =>
    if timeStamp - gesture.timeStamp ≤ mobileTwoFingerTapMaximumDuration ∧
        R.le gesture.maximumMovement (R.literal mobileTwoFingerMovementTolerance) then
      onAction (.click .rightClick gesture.startCentroid) m
    else m
  | .pinch => onAction (.zoom .end gesture.centroid (gesture.scale R)) m
  | .scroll => m

/-! ## Events -/

/-- A contact. -/
def pointerDown (m : MobileGestureMachine F) : MobileGestureMachine F :=
  if m.disposed ∨ pointer ∈ m.contacts.pointers ∨ ¬ position.valid R then m
  else
    let m := { m with
      releaseEmitted := false
      contacts := m.contacts ++ [(pointer, { start := position, current := position })] }
    if m.ignoreUntilClear then m
    else if m.contacts.length = 1 then beginSingle pointer position timeStamp m
    else if m.contacts.length = 2 then
      { cancelTwoFingerClassification (cancelLongPress m) with
        singleMoved := true
        twoFinger := some (.ofContacts R m.gestures m.contacts timeStamp)
        gestures := m.gestures + 1 }
    else { cancelActiveState m with contacts := m.contacts, ignoreUntilClear := true }

/-- A contact has moved. -/
def pointerMove (m : MobileGestureMachine F) :
    MobileGestureMachine F :=
  if m.disposed ∨ ¬ position.valid R ∨ pointer ∉ m.contacts.pointers then m
  else
    let m := { m with contacts := m.contacts.moveTo pointer position }
    if m.ignoreUntilClear then m
    else
      match m.twoFinger, m.single with
      | some gesture, _ => updateTwoFinger R gesture m
      | none, none => m
      | none, some single =>
        if pointer ≠ single.pointer then m
        else
          let m := { m with single := some { single with current := position } }
          if m.dragging then onAction (.drag .move position) m
          else if R.lt (R.literal mobileLongPressMovementTolerance)
              (position.distance R single.start) then
            cancelLongPress { m with singleMoved := true }
          else m

/-- A contact has been lifted. -/
def pointerUp (m : MobileGestureMachine F) : MobileGestureMachine F :=
  if m.disposed ∨ pointer ∉ m.contacts.pointers then m
  else
    let m := if position.valid R then
      { m with contacts := m.contacts.moveTo pointer position } else m
    if m.ignoreUntilClear then
      let contacts := m.contacts.remove pointer
      { m with contacts, ignoreUntilClear := !contacts.isEmpty }
    else
      match m.twoFinger, m.single with
      | some gesture, _ =>
        let m := finishTwoFinger R gesture timeStamp (cancelTwoFingerClassification m)
        let contacts := m.contacts.remove pointer
        clearSingle { m with
          twoFinger := none
          contacts
          ignoreUntilClear := !contacts.isEmpty }
      | none, none => { m with contacts := m.contacts.remove pointer }
      | none, some single =>
        if pointer ≠ single.pointer then { m with contacts := m.contacts.remove pointer }
        else
          let m := cancelLongPress m
          let current := if position.valid R then position else single.current
          let m :=
            if m.dragging then onAction (.drag .up current) m
            else if ¬ m.singleMoved ∧ timeStamp - single.downTime ≤ mobileTapMaximumDuration then
              handleTap R current timeStamp m
            else m
          clearSingle { m with contacts := m.contacts.remove pointer }

/-- Give up the gestures under way. -/
def cancel (m : MobileGestureMachine F) : MobileGestureMachine F :=
  if m.disposed ∨ m.releaseEmitted then m else cancelActiveState m

/-- A contact has been cancelled. -/
def pointerCancel (m : MobileGestureMachine F) : MobileGestureMachine F :=
  if pointer ∈ m.contacts.pointers then cancel m else m

/-- The surface is gone. -/
def dispose (m : MobileGestureMachine F) : MobileGestureMachine F :=
  if m.disposed then m else { cancelActiveState m with disposed := true }

/-! ## Timers -/

/-- The timers of the machine. -/
inductive GestureTimer where
  | longPress
  | pendingTap
  | classification

/-- When a live timer is due. -/
def due? (m : MobileGestureMachine F) : GestureTimer → Option Nat
  | .longPress => m.longPressTimer.map (·.due)
  | .pendingTap => m.pendingTapTimer
  | .classification => m.twoFingerClassificationTimer.map (·.due)

/-- A timer is due, and no live timer is due before it. -/
def isNext (m : MobileGestureMachine F) (timer : GestureTimer) : Bool :=
  match m.due? timer with
  | none => false
  | some due => due ≤ m.clock ∧ [GestureTimer.longPress, .pendingTap, .classification].all
      fun other => (m.due? other).all (due ≤ ·)

/-- The long press has lasted. -/
def longPressFired (timer : LongPressTimer) (m : MobileGestureMachine F) :
    MobileGestureMachine F :=
  match m.single with
  | none => m
  | some single =>
    if m.disposed ∨ single.pointer ≠ timer.pointer ∨ m.singleMoved ∨ m.twoFinger.isSome ∨
        m.ignoreUntilClear then m
    else onAction (.drag .down single.current) { m with dragging := true }

/-- The wait for a classification is over. -/
def classificationFired (timer : ClassificationTimer) (m : MobileGestureMachine F) :
    MobileGestureMachine F :=
  match m.twoFinger with
  | none => m
  | some gesture =>
    if m.disposed ∨ gesture.number ≠ timer.gesture ∨ m.ignoreUntilClear ∨
        m.contacts.length ≠ 2 then m
    else classifyAndEmitTwoFinger R gesture m

/-- A timer fires. -/
def fire (timer : GestureTimer) (m : MobileGestureMachine F) : MobileGestureMachine F :=
  match timer with
  | .longPress =>
    match m.longPressTimer with
    | none => m
    | some t => longPressFired t { m with longPressTimer := none }
  | .pendingTap => emitPendingTap m
  | .classification =>
    match m.twoFingerClassificationTimer with
    | none => m
    | some t => classificationFired R t { m with twoFingerClassificationTimer := none }

/-! ## Runs -/

/-- What can happen to the machine. -/
inductive GestureEvent (F : Type) where
  | pointerDown (pointer : Int) (position : Offset F) (timeStamp : Int)
  | pointerMove (pointer : Int) (position : Offset F) (timeStamp : Int)
  | pointerUp (pointer : Int) (position : Offset F) (timeStamp : Int)
  | pointerCancel (pointer : Int)
  | cancel
  | dispose
  | timer (timer : GestureTimer)

/-- An event, and the time that has passed since the one before it. -/
structure GestureInput (F : Type) where
  elapsed : Nat
  event : GestureEvent F

/-- One event. -/
def handle (m : MobileGestureMachine F) : GestureEvent F → MobileGestureMachine F
  | .pointerDown pointer position timeStamp => pointerDown R pointer position timeStamp m
  | .pointerMove pointer position _ => pointerMove R pointer position m
  | .pointerUp pointer position timeStamp => pointerUp R pointer position timeStamp m
  | .pointerCancel pointer => pointerCancel pointer m
  | .cancel => cancel m
  | .dispose => dispose m
  | .timer timer => if m.isNext timer then fire R timer m else m

/-- The machine at a later time. -/
def after (elapsed : Nat) (m : MobileGestureMachine F) : MobileGestureMachine F :=
  { m with clock := m.clock + elapsed }

/-- The gestures as a machine. -/
def machine : Machine (MobileGestureMachine F) (GestureInput F) Unit :=
  ⟨fun m input => (handle R (m.after input.elapsed) input.event, ())⟩

end MobileGestureMachine

end Client

end Roammand
