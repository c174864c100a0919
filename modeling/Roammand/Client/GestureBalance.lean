import Roammand.Client.GestureMachine
import Mathlib.Algebra.GroupWithZero.Nat
import Mathlib.Data.List.Basic

/-!
# The actions of the gesture machine

At every moment the machine is idle, follows one finger, follows two, or ignores what is
still in contact.  From this shape follow what the emitted actions say about an open drag
or zoom and what is left when all contacts are gone.

Two sequences break the rules.  A second finger that lands during a drag takes the drag
over without ending it, and lifting a finger then drops it.  After a third finger the
release has been emitted, and a cancelled contact stays in the map.

Main results:

- Definition `GestureStream`: what a stream of actions may do next.
- Theorem `MobileGestureMachine.step_shape`: every event leads to one of the four shapes.
- Theorem `MobileGestureMachine.gesture_drag_balance`: drags and zooms are closed unless a
  finger is lifted from a drag that a second one has taken over.
- Theorem `MobileGestureMachine.gesture_recovery`: without contacts the machine is idle
  unless a contact was cancelled after the release of a third one.
-/

namespace Roammand

namespace Client

open Library List Contacts

/-! ## Streams of actions -/

/-- What a stream of actions has left open. -/
structure GestureStream where
  dragOpen : Bool
  zoomOpen : Bool
  deriving DecidableEq

namespace GestureStream

variable {F : Type}

/-- Nothing is open. -/
def closed : GestureStream := ⟨false, false⟩

/-- The stream after an action, or nothing if the action is not allowed there. -/
def next (stream : GestureStream) : MobileGestureAction F → Option GestureStream
  | .click _ _ => if stream.dragOpen then none else some stream
  | .drag .down _ => if stream.dragOpen then none else some { stream with dragOpen := true }
  | .drag .move _ => if stream.dragOpen then some stream else none
  | .drag .up _ => if stream.dragOpen then some { stream with dragOpen := false } else none
  | .scroll _ => some stream
  | .zoom .start _ _ => if stream.zoomOpen then none else some { stream with zoomOpen := true }
  | .zoom .update _ _ => if stream.zoomOpen then some stream else none
  | .zoom .end _ _ => if stream.zoomOpen then some { stream with zoomOpen := false } else none
  | .release => some closed

/-- What a list of actions leaves open, or nothing if one of them was not allowed. -/
def scan (actions : List (MobileGestureAction F)) : Option GestureStream :=
  actions.foldlM next closed

theorem scan_snoc (actions : List (MobileGestureAction F)) (action : MobileGestureAction F) :
    scan (actions ++ [action]) = (scan actions).bind (next · action) := by
  unfold scan
  rw [foldlM_append]
  cases actions.foldlM next closed with
  | none => rfl
  | some stream => exact bind_pure (stream.next action)

end GestureStream

namespace Contacts

variable {F : Type} {contacts : Contacts F} {pointer : Int}

@[simp]
theorem pointers_moveTo (position : Offset F) :
    (contacts.moveTo pointer position).pointers = contacts.pointers := by
  unfold pointers moveTo
  rw [map_map]
  refine map_congr_left fun entry _ => ?_
  simp only [Function.comp_apply]
  split
  · rfl
  · rfl

theorem pointers_remove :
    (contacts.remove pointer).pointers = contacts.pointers.filter (· ≠ pointer) := by
  unfold pointers remove
  rw [filter_map]
  rfl

theorem pointers_eq_nil : contacts.pointers = [] ↔ contacts = [] := map_eq_nil_iff

@[simp]
theorem length_pointers : contacts.pointers.length = contacts.length := length_map _

end Contacts

namespace MobileGestureMachine

variable {F : Type} {R : Doubles F} {m m' : MobileGestureMachine F}

/-! ## Shapes -/

/-- Nothing is under way. -/
structure Idle (m : MobileGestureMachine F) : Prop where
  contacts : m.contacts = []
  single : m.single = none
  twoFinger : m.twoFinger = none
  ignoring : m.ignoreUntilClear = false
  dragging : m.dragging = false
  longPress : m.longPressTimer = none
  classification : m.twoFingerClassificationTimer = none

/-- One finger is followed. -/
structure OneFinger (m : MobileGestureMachine F) (single : SingleContact F) : Prop where
  contacts : m.contacts.pointers = [single.pointer]
  single : m.single = some single
  twoFinger : m.twoFinger = none
  ignoring : m.ignoreUntilClear = false
  classification : m.twoFingerClassificationTimer = none
  releaseEmitted : m.releaseEmitted = false
  disposed : m.disposed = false
  longPress : m.dragging = true → m.longPressTimer = none

/-- Two fingers are followed. -/
structure TwoFingers (m : MobileGestureMachine F) (gesture : TwoFingerGesture F) : Prop where
  contacts : m.contacts.length = 2
  twoFinger : m.twoFinger = some gesture
  ignoring : m.ignoreUntilClear = false
  longPress : m.longPressTimer = none
  releaseEmitted : m.releaseEmitted = false
  disposed : m.disposed = false

/-- The contacts are ignored until they are gone. -/
structure Ignoring (m : MobileGestureMachine F) : Prop where
  contacts : m.contacts ≠ []
  single : m.single = none
  twoFinger : m.twoFinger = none
  ignoring : m.ignoreUntilClear = true
  dragging : m.dragging = false
  longPress : m.longPressTimer = none
  classification : m.twoFingerClassificationTimer = none
  disposed : m.disposed = false

/-- The four shapes of the machine. -/
inductive Shape (m : MobileGestureMachine F) : Prop where
  | idle (h : Idle m)
  | oneFinger {single : SingleContact F} (h : OneFinger m single)
  | twoFingers {gesture : TwoFingerGesture F} (h : TwoFingers m gesture)
  | ignoring (h : Ignoring m)

/-- The pending tap closes its window before a long press can last, and none is pending
during a drag. -/
structure TimersOrdered (m : MobileGestureMachine F) : Prop where
  pending_iff : m.pendingTapTimer.isSome ↔ m.pendingTap.isSome
  pending_due : ∀ due, m.pendingTapTimer = some due → due ≤ m.clock + mobileDoubleTapInterval
  pending_first : ∀ due timer, m.pendingTapTimer = some due → m.longPressTimer = some timer →
    due < timer.due
  not_dragging : m.dragging = true → m.pendingTap = none

/-- What is always true of the machine. -/
structure Sound (m : MobileGestureMachine F) : Prop where
  shape : Shape m
  timers : TimersOrdered m

/-- A two-finger gesture is a zoom under way. -/
def zooming (m : MobileGestureMachine F) : Bool :=
  m.twoFinger.any fun gesture => gesture.mode = .pinch

/-- The actions have left open what the machine follows. -/
def Tracks (m : MobileGestureMachine F) : Prop :=
  GestureStream.scan m.actions = some ⟨m.dragging, m.zooming⟩

theorem sound_initial : Sound (initial : MobileGestureMachine F) where
  shape := .idle ⟨rfl, rfl, rfl, rfl, rfl, rfl, rfl⟩
  timers := ⟨Iff.rfl, nofun, nofun, nofun⟩

theorem tracks_initial : Tracks (initial : MobileGestureMachine F) := rfl

theorem Sound.after (h : Sound m) (elapsed : Nat) : Sound (m.after elapsed) where
  shape := by
    cases h.shape with
    | idle h => exact .idle ⟨h.1, h.2, h.3, h.4, h.5, h.6, h.7⟩
    | oneFinger h => exact .oneFinger ⟨h.1, h.2, h.3, h.4, h.5, h.6, h.7, h.8⟩
    | twoFingers h => exact .twoFingers ⟨h.1, h.2, h.3, h.4, h.5, h.6⟩
    | ignoring h => exact .ignoring ⟨h.1, h.2, h.3, h.4, h.5, h.6, h.7, h.8⟩
  timers := by
    refine ⟨h.timers.pending_iff, fun due hdue => ?_, h.timers.pending_first,
      h.timers.not_dragging⟩
    have hle := h.timers.pending_due due hdue
    change due ≤ m.clock + elapsed + mobileDoubleTapInterval
    omega

/-! ## Actions and the stream -/

theorem Tracks.of_same (h : Tracks m) (hactions : m'.actions = m.actions)
    (hdragging : m'.dragging = m.dragging) (htwo : m'.twoFinger = m.twoFinger) : Tracks m' := by
  unfold Tracks zooming
  rw [hactions, hdragging, htwo]
  exact h

/-- An action that is allowed moves the stream. -/
theorem Tracks.snoc (h : Tracks m) {action : MobileGestureAction F}
    (hactions : m'.actions = m.actions ++ [action])
    (hnext : GestureStream.next ⟨m.dragging, m.zooming⟩ action =
      some ⟨m'.dragging, m'.zooming⟩) : Tracks m' := by
  unfold Tracks at h ⊢
  rw [hactions, GestureStream.scan_snoc, h]
  exact hnext

/-! ## Giving up -/

theorem cancelActiveState_idle (m : MobileGestureMachine F) : Idle (cancelActiveState m) := by
  unfold cancelActiveState
  dsimp only
  split
  · exact ⟨rfl, rfl, rfl, rfl, rfl, rfl, rfl⟩
  · exact ⟨rfl, rfl, rfl, rfl, rfl, rfl, rfl⟩

theorem cancelActiveState_pending (m : MobileGestureMachine F) :
    (cancelActiveState m).pendingTap = none ∧ (cancelActiveState m).pendingTapTimer = none := by
  unfold cancelActiveState
  dsimp only
  split
  · exact ⟨rfl, rfl⟩
  · exact ⟨rfl, rfl⟩

theorem cancelActiveState_disposed (m : MobileGestureMachine F) :
    (cancelActiveState m).disposed = m.disposed := by
  unfold cancelActiveState
  dsimp only
  split
  · rfl
  · rfl

/-- Without a pending tap the timers are in order. -/
theorem TimersOrdered.of_no_pending (htap : m.pendingTap = none)
    (htimer : m.pendingTapTimer = none) : TimersOrdered m := by
  refine ⟨?_, ?_, ?_, fun _ => htap⟩
  · rw [htap, htimer]
    exact Iff.rfl
  · rw [htimer]
    exact nofun
  · rw [htimer]
    exact nofun

theorem cancelActiveState_sound (m : MobileGestureMachine F) : Sound (cancelActiveState m) :=
  ⟨.idle (cancelActiveState_idle m),
    .of_no_pending (cancelActiveState_pending m).1 (cancelActiveState_pending m).2⟩

/-- A release that is not repeated has been emitted before anything was opened. -/
theorem Shape.closed (h : Shape m) (hreleased : m.releaseEmitted = true) :
    m.dragging = false ∧ m.twoFinger = none := by
  cases h with
  | idle h => exact ⟨h.dragging, h.twoFinger⟩
  | oneFinger h => exact nomatch hreleased.symm.trans h.releaseEmitted
  | twoFingers h => exact nomatch hreleased.symm.trans h.releaseEmitted
  | ignoring h => exact ⟨h.dragging, h.twoFinger⟩

/-- Giving up closes what is open, with the release if it was not emitted before. -/
theorem cancelActiveState_tracks (hshape : m.releaseEmitted = true →
    m.dragging = false ∧ m.twoFinger = none) (h : Tracks m) : Tracks (cancelActiveState m) := by
  unfold cancelActiveState
  dsimp only
  split
  · next hreleased =>
    obtain ⟨hdragging, htwo⟩ := hshape hreleased
    exact h.of_same rfl hdragging.symm htwo.symm
  · exact h.snoc rfl rfl

theorem cancel_sound (h : Sound m) : Sound (cancel m) := by
  unfold cancel
  split
  · exact h
  · exact cancelActiveState_sound m

theorem cancel_tracks (hs : Sound m) (h : Tracks m) : Tracks (cancel m) := by
  unfold cancel
  split
  · exact h
  · exact cancelActiveState_tracks hs.shape.closed h

theorem pointerCancel_sound (h : Sound m) (pointer : Int) : Sound (pointerCancel pointer m) := by
  unfold pointerCancel
  split
  · exact cancel_sound h
  · exact h

theorem pointerCancel_tracks (hs : Sound m) (h : Tracks m) (pointer : Int) :
    Tracks (pointerCancel pointer m) := by
  unfold pointerCancel
  split
  · exact cancel_tracks hs h
  · exact h

theorem dispose_sound (h : Sound m) : Sound (dispose m) := by
  unfold dispose
  split
  · exact h
  · have hidle := cancelActiveState_idle m
    have hpending := cancelActiveState_pending m
    exact ⟨.idle ⟨hidle.1, hidle.2, hidle.3, hidle.4, hidle.5, hidle.6, hidle.7⟩,
      .of_no_pending hpending.1 hpending.2⟩

theorem dispose_tracks (hs : Sound m) (h : Tracks m) : Tracks (dispose m) := by
  unfold dispose
  split
  · exact h
  · exact (cancelActiveState_tracks hs.shape.closed h).of_same rfl rfl rfl

/-! ## A contact -/

/-- A new contact is in the map. -/
def touched (pointer : Int) (position : Offset F) (m : MobileGestureMachine F) :
    MobileGestureMachine F :=
  { m with
    releaseEmitted := false
    contacts := m.contacts ++ [(pointer, { start := position, current := position })] }

/-- A second finger has landed. -/
def beginTwo (R : Doubles F) (timeStamp : Int) (m : MobileGestureMachine F) :
    MobileGestureMachine F :=
  { m with
    longPressTimer := none
    twoFingerClassificationTimer := none
    singleMoved := true
    twoFinger := some (.ofContacts R m.gestures m.contacts timeStamp)
    gestures := m.gestures + 1 }

/-- A third finger has landed. -/
def giveUp (m : MobileGestureMachine F) : MobileGestureMachine F :=
  { cancelActiveState m with contacts := m.contacts, ignoreUntilClear := true }

@[simp]
theorem touched_length (pointer : Int) (position : Offset F) (m : MobileGestureMachine F) :
    (touched pointer position m).contacts.length = m.contacts.length + 1 := by
  simp [touched]

/-- What a new contact does. -/
theorem pointerDown_new {pointer : Int} {position : Offset F} (timeStamp : Int)
    (hnew : ¬ (m.disposed ∨ pointer ∈ m.contacts.pointers ∨ ¬ position.valid R)) :
    pointerDown R pointer position timeStamp m =
      if (touched pointer position m).ignoreUntilClear then touched pointer position m
      else if (touched pointer position m).contacts.length = 1 then
        beginSingle pointer position timeStamp (touched pointer position m)
      else if (touched pointer position m).contacts.length = 2 then
        beginTwo R timeStamp (touched pointer position m)
      else giveUp (touched pointer position m) :=
  if_neg hnew

theorem pointerDown_idle {pointer : Int} {position : Offset F} (timeStamp : Int)
    (hnew : ¬ (m.disposed ∨ pointer ∈ m.contacts.pointers ∨ ¬ position.valid R))
    (h : Idle m) : pointerDown R pointer position timeStamp m =
      beginSingle pointer position timeStamp (touched pointer position m) := by
  rw [pointerDown_new timeStamp hnew, if_neg (by simp [touched, h.ignoring]),
    if_pos (by simp [h.contacts])]

/-- What a contact does in each shape. -/
theorem pointerDown_cases (h : Shape m) (pointer : Int) (position : Offset F) (timeStamp : Int) :
    pointerDown R pointer position timeStamp m = m ∨
    (m.disposed = false ∧
      ((Idle m ∧ pointerDown R pointer position timeStamp m =
          beginSingle pointer position timeStamp (touched pointer position m)) ∨
        (∃ single, OneFinger m single ∧ pointerDown R pointer position timeStamp m =
          beginTwo R timeStamp (touched pointer position m)) ∨
        (∃ gesture, TwoFingers m gesture ∧ pointerDown R pointer position timeStamp m =
          giveUp (touched pointer position m)) ∨
        (Ignoring m ∧ pointerDown R pointer position timeStamp m =
          touched pointer position m))) := by
  by_cases hnew : m.disposed ∨ pointer ∈ m.contacts.pointers ∨ ¬ position.valid R
  · exact .inl (if_pos hnew)
  refine .inr ⟨Bool.eq_false_iff.mpr fun hdisposed => hnew (.inl hdisposed), ?_⟩
  cases h with
  | idle hidle =>
    exact .inl ⟨hidle, pointerDown_idle timeStamp hnew hidle⟩
  | @oneFinger single hone =>
    have hlength : m.contacts.length = 1 := by
      rw [← length_pointers, hone.contacts]
      rfl
    refine .inr (.inl ⟨single, hone, ?_⟩)
    rw [pointerDown_new timeStamp hnew, if_neg (by simp [touched, hone.ignoring]),
      if_neg (by simp [hlength]),
      if_pos (by simp [hlength])]
  | twoFingers htwo =>
    refine .inr (.inr (.inl ⟨_, htwo, ?_⟩))
    rw [pointerDown_new timeStamp hnew, if_neg (by simp [touched, htwo.ignoring]),
      if_neg (by simp [htwo.contacts]),
      if_neg (by simp [htwo.contacts])]
  | ignoring hignoring =>
    exact .inr (.inr (.inr ⟨hignoring,
      (pointerDown_new timeStamp hnew).trans (if_pos hignoring.ignoring)⟩))

/-- A contact begins a gesture, turns one finger into two, or gives up. -/
theorem pointerDown_sound (h : Sound m) (pointer : Int) (position : Offset F) (timeStamp : Int) :
    Sound (pointerDown R pointer position timeStamp m) := by
  have htimers := h.timers
  rcases pointerDown_cases h.shape pointer position timeStamp with heq | ⟨hdisposed,
    ⟨hidle, heq⟩ | ⟨single, hone, heq⟩ | ⟨gesture, htwo, heq⟩ | ⟨hignoring, heq⟩⟩
  · rwa [heq]
  · rw [heq]
    refine ⟨.oneFinger ⟨?_, rfl, hidle.twoFinger, hidle.ignoring, hidle.classification, rfl,
      hdisposed, nofun⟩, htimers.pending_iff, htimers.pending_due, ?_, nofun⟩
    · simp [beginSingle, touched, hidle.contacts, pointers]
    · intro due timer hdue htimer
      cases htimer
      have hle := htimers.pending_due due hdue
      change due < m.clock + mobileLongPressDelay
      unfold mobileDoubleTapInterval at hle
      unfold mobileLongPressDelay
      omega
  · rw [heq]
    have hlength : m.contacts.length = 1 := by
      rw [← length_pointers, hone.contacts]
      rfl
    refine ⟨.twoFingers ⟨?_, rfl, hone.ignoring, rfl, rfl, hdisposed⟩,
      htimers.pending_iff, htimers.pending_due, nofun, htimers.not_dragging⟩
    exact (touched_length pointer position m).trans (by rw [hlength])
  · rw [heq]
    have hidle := cancelActiveState_idle (touched pointer position m)
    have hpending := cancelActiveState_pending (touched pointer position m)
    refine ⟨.ignoring ⟨?_, hidle.single, hidle.twoFinger, rfl, hidle.dragging, hidle.longPress,
      hidle.classification, ?_⟩, .of_no_pending hpending.1 hpending.2⟩
    · exact append_ne_nil_of_right_ne_nil _ (by simp)
    · exact (cancelActiveState_disposed _).trans hdisposed
  · rw [heq]
    exact ⟨.ignoring ⟨append_ne_nil_of_right_ne_nil _ (by simp), hignoring.single,
      hignoring.twoFinger, hignoring.ignoring, hignoring.dragging, hignoring.longPress,
      hignoring.classification, hdisposed⟩,
      htimers.pending_iff, htimers.pending_due, htimers.pending_first, htimers.not_dragging⟩

theorem pointerDown_tracks (hs : Sound m) (h : Tracks m) (pointer : Int) (position : Offset F)
    (timeStamp : Int) : Tracks (pointerDown R pointer position timeStamp m) := by
  rcases pointerDown_cases hs.shape pointer position timeStamp with heq | ⟨-,
    ⟨hidle, heq⟩ | ⟨single, hone, heq⟩ | ⟨gesture, htwo, heq⟩ | ⟨hignoring, heq⟩⟩
  · rwa [heq]
  · rw [heq]
    exact h.of_same rfl hidle.dragging.symm rfl
  · rw [heq]
    unfold Tracks zooming at h ⊢
    rw [hone.twoFinger] at h
    exact h
  · rw [heq]
    exact (cancelActiveState_tracks nofun (m := touched pointer position m) h).of_same rfl rfl rfl
  · rw [heq]
    exact h

/-! ## Two fingers -/

variable (gesture : TwoFingerGesture F)

/-- A decision about a gesture opens a zoom if it is a pinch. -/
theorem classify_eq (m : MobileGestureMachine F) :
    ∃ gesture' actions, classify R gesture m = (gesture', { m with actions }) ∧
      ∀ dragOpen, GestureStream.scan m.actions = some ⟨dragOpen, gesture.mode = .pinch⟩ →
        GestureStream.scan actions = some ⟨dragOpen, gesture'.mode = .pinch⟩ := by
  unfold classify
  by_cases hmode : gesture.mode = .undecided
  · rw [if_pos hmode]
    split
    · refine ⟨_, _, rfl, fun dragOpen h => ?_⟩
      rw [GestureStream.scan_snoc, h, hmode]
      rfl
    · split
      · refine ⟨_, m.actions, rfl, fun dragOpen h => ?_⟩
        rw [h, hmode]
        rfl
      · exact ⟨gesture, m.actions, rfl, fun dragOpen h => h⟩
  · rw [if_neg hmode]
    exact ⟨gesture, m.actions, rfl, fun dragOpen h => h⟩

/-- What a gesture emits opens and closes nothing. -/
theorem emitTwoFinger_eq (m : MobileGestureMachine F) :
    ∃ actions, emitTwoFinger R gesture m = { m with actions } ∧
      ∀ dragOpen, GestureStream.scan m.actions = some ⟨dragOpen, gesture.mode = .pinch⟩ →
        GestureStream.scan actions = some ⟨dragOpen, gesture.mode = .pinch⟩ := by
  unfold emitTwoFinger
  cases gesture.mode with
  | undecided => exact ⟨m.actions, rfl, fun dragOpen h => h⟩
  | pinch =>
    refine ⟨_, rfl, fun dragOpen h => ?_⟩
    rw [GestureStream.scan_snoc, h]
    rfl
  | scroll =>
    dsimp only
    split
    · exact ⟨m.actions, rfl, fun dragOpen h => h⟩
    · refine ⟨_, rfl, fun dragOpen h => ?_⟩
      rw [GestureStream.scan_snoc, h]
      rfl

/-- Deciding about a gesture changes nothing but the gesture and the actions. -/
theorem classifyAndEmitTwoFinger_eq (m : MobileGestureMachine F) :
    ∃ gesture' actions,
      classifyAndEmitTwoFinger R gesture m = { m with twoFinger := some gesture', actions } ∧
      ∀ dragOpen, GestureStream.scan m.actions = some ⟨dragOpen, gesture.mode = .pinch⟩ →
        GestureStream.scan actions = some ⟨dragOpen, gesture'.mode = .pinch⟩ := by
  obtain ⟨gesture₁, actions₁, hclassify, hscan₁⟩ := classify_eq (R := R) gesture m
  obtain ⟨actions, hemit, hscan⟩ := emitTwoFinger_eq (R := R) gesture₁
    { m with actions := actions₁ }
  refine ⟨{ gesture₁ with previousCentroid := gesture₁.centroid }, actions, ?_,
    fun dragOpen h => hscan dragOpen (hscan₁ dragOpen h)⟩
  unfold classifyAndEmitTwoFinger
  rw [hclassify]
  dsimp only
  rw [hemit]

/-- A move of two fingers changes nothing but the gesture, its timer and the actions. -/
theorem updateTwoFinger_eq (m : MobileGestureMachine F) :
    ∃ gesture' actions timer,
      updateTwoFinger R gesture m = { m with
        twoFinger := some gesture', actions, twoFingerClassificationTimer := timer } ∧
      ∀ dragOpen, GestureStream.scan m.actions = some ⟨dragOpen, gesture.mode = .pinch⟩ →
        GestureStream.scan actions = some ⟨dragOpen, gesture'.mode = .pinch⟩ := by
  unfold updateTwoFinger
  dsimp only
  split
  · split
    · obtain ⟨gesture', actions, heq, hscan⟩ := classifyAndEmitTwoFinger_eq (R := R)
        (gesture.update R m.contacts)
        (cancelTwoFingerClassification { m with twoFinger := some (gesture.update R m.contacts) })
      exact ⟨gesture', actions, none, heq, hscan⟩
    · unfold scheduleTwoFingerClassification
      split
      · exact ⟨_, _, _, rfl, fun _ h => h⟩
      · exact ⟨_, _, _, rfl, fun _ h => h⟩
  · obtain ⟨gesture', actions, heq, hscan⟩ := classifyAndEmitTwoFinger_eq (R := R)
      (gesture.update R m.contacts) { m with twoFinger := some (gesture.update R m.contacts) }
    exact ⟨gesture', actions, _, heq, hscan⟩

/-- A changed gesture of two fingers keeps the shape. -/
theorem TwoFingers.changed {gesture gesture' : TwoFingerGesture F} (h : TwoFingers m gesture)
    {contacts : Contacts F} (hcontacts : contacts.length = m.contacts.length)
    (actions : List (MobileGestureAction F)) (timer : Option ClassificationTimer) :
    TwoFingers { m with
      contacts
      twoFinger := some gesture', actions, twoFingerClassificationTimer := timer } gesture' :=
  ⟨hcontacts.trans h.contacts, rfl, h.ignoring, h.longPress, h.releaseEmitted, h.disposed⟩

theorem TwoFingers.tracks_iff {gesture : TwoFingerGesture F} (h : m.twoFinger = some gesture) :
    Tracks m ↔ GestureStream.scan m.actions = some ⟨m.dragging, gesture.mode = .pinch⟩ := by
  unfold Tracks zooming
  rw [h]
  rfl

/-! ## A move -/

/-- A contact that moves. -/
def moved (pointer : Int) (position : Offset F) (m : MobileGestureMachine F) :
    MobileGestureMachine F :=
  { m with contacts := m.contacts.moveTo pointer position }

/-- The finger that is followed moves. -/
def dragTo (R : Doubles F) (single : SingleContact F) (position : Offset F)
    (m : MobileGestureMachine F) : MobileGestureMachine F :=
  let m := { m with single := some { single with current := position } }
  if m.dragging then onAction (.drag .move position) m
  else if R.lt (R.literal mobileLongPressMovementTolerance) (position.distance R single.start) then
    cancelLongPress { m with singleMoved := true }
  else m

/-- What a move does in each shape. -/
theorem pointerMove_cases (h : Shape m) (pointer : Int) (position : Offset F) :
    pointerMove R pointer position m = m ∨
    (Ignoring m ∧ pointerMove R pointer position m = moved pointer position m) ∨
    (∃ gesture, TwoFingers m gesture ∧ pointerMove R pointer position m =
      updateTwoFinger R gesture (moved pointer position m)) ∨
    (∃ single, OneFinger m single ∧ pointerMove R pointer position m =
      dragTo R single position (moved pointer position m)) := by
  by_cases hknown : m.disposed ∨ ¬ position.valid R ∨ pointer ∉ m.contacts.pointers
  · exact .inl (if_pos hknown)
  have hmove : pointerMove R pointer position m =
      if m.ignoreUntilClear then moved pointer position m
      else
        m.twoFinger.elim
          (m.single.elim (moved pointer position m) fun single =>
            if pointer ≠ single.pointer then moved pointer position m
            else dragTo R single position (moved pointer position m))
          fun gesture => updateTwoFinger R gesture (moved pointer position m) := by
    refine (if_neg hknown).trans ?_
    obtain ⟨_, single, _, _, _, _, twoFinger⟩ := m
    cases twoFinger <;> cases single <;> rfl
  simp only [not_or, not_not] at hknown
  cases h with
  | idle hidle =>
    rw [hidle.contacts] at hknown
    exact absurd hknown.2.2 not_mem_nil
  | @oneFinger single hone =>
    rw [hone.contacts, mem_singleton] at hknown
    rw [hone.ignoring, hone.twoFinger, hone.single] at hmove
    refine .inr (.inr (.inr ⟨single, hone, hmove.trans ?_⟩))
    rw [if_neg (by decide)]
    exact if_neg fun hne => hne hknown.2.2
  | twoFingers htwo =>
    rw [htwo.ignoring, htwo.twoFinger] at hmove
    exact .inr (.inr (.inl ⟨_, htwo, hmove⟩))
  | ignoring hignoring =>
    exact .inr (.inl ⟨hignoring, hmove.trans (if_pos hignoring.ignoring)⟩)

theorem pointerMove_sound (h : Sound m) (pointer : Int) (position : Offset F) :
    Sound (pointerMove R pointer position m) := by
  have htimers := h.timers
  rcases pointerMove_cases (R := R) h.shape pointer position with heq | ⟨hignoring, heq⟩ |
    ⟨gesture, htwo, heq⟩ | ⟨single, hone, heq⟩
  · rwa [heq]
  · rw [heq]
    refine ⟨.ignoring ⟨?_, hignoring.single, hignoring.twoFinger, hignoring.ignoring,
      hignoring.dragging, hignoring.longPress, hignoring.classification, hignoring.disposed⟩,
      htimers.pending_iff, htimers.pending_due, htimers.pending_first, htimers.not_dragging⟩
    exact fun hnil => hignoring.contacts (map_eq_nil_iff.mp hnil)
  · obtain ⟨gesture', actions, timer, hupdate, -⟩ := updateTwoFinger_eq (R := R) gesture
      (moved pointer position m)
    rw [heq, hupdate]
    exact ⟨.twoFingers (htwo.changed (length_map _) actions timer),
      htimers.pending_iff, htimers.pending_due, htimers.pending_first, htimers.not_dragging⟩
  · rw [heq]
    have hcontacts : (moved pointer position m).contacts.pointers =
        [{ single with current := position : SingleContact F }.pointer] :=
      (pointers_moveTo position).trans hone.contacts
    unfold dragTo
    dsimp only
    split
    · next hdragging =>
      exact ⟨.oneFinger ⟨hcontacts, rfl, hone.twoFinger, hone.ignoring, hone.classification,
        hone.releaseEmitted, hone.disposed, hone.longPress⟩,
        htimers.pending_iff, htimers.pending_due, htimers.pending_first, htimers.not_dragging⟩
    · split
      · exact ⟨.oneFinger ⟨hcontacts, rfl, hone.twoFinger, hone.ignoring, hone.classification,
          hone.releaseEmitted, hone.disposed, fun _ => rfl⟩,
          htimers.pending_iff, htimers.pending_due, nofun, htimers.not_dragging⟩
      · exact ⟨.oneFinger ⟨hcontacts, rfl, hone.twoFinger, hone.ignoring, hone.classification,
          hone.releaseEmitted, hone.disposed, hone.longPress⟩,
          htimers.pending_iff, htimers.pending_due, htimers.pending_first, htimers.not_dragging⟩

theorem pointerMove_tracks (hs : Sound m) (h : Tracks m) (pointer : Int) (position : Offset F) :
    Tracks (pointerMove R pointer position m) := by
  rcases pointerMove_cases (R := R) hs.shape pointer position with heq | ⟨hignoring, heq⟩ |
    ⟨gesture, htwo, heq⟩ | ⟨single, hone, heq⟩
  · rwa [heq]
  · rw [heq]
    exact h
  · obtain ⟨gesture', actions, timer, hupdate, hscan⟩ := updateTwoFinger_eq (R := R) gesture
      (moved pointer position m)
    rw [heq, hupdate, TwoFingers.tracks_iff rfl]
    exact hscan _ ((TwoFingers.tracks_iff htwo.twoFinger).mp h)
  · rw [heq]
    unfold dragTo
    dsimp only
    split
    · next hdragging =>
      refine h.snoc rfl ?_
      have hdragging : m.dragging = true := hdragging
      simp [GestureStream.next, hdragging, onAction, moved, zooming]
    · split
      · exact h
      · exact h

/-! ## Taps -/

/-- The window of a double tap ends with a click at most. -/
theorem emitPendingTap_eq (m : MobileGestureMachine F) :
    ∃ actions, emitPendingTap m =
        { m with pendingTapTimer := none, pendingTap := none, actions } ∧
      ∀ zoomOpen, GestureStream.scan m.actions = some ⟨false, zoomOpen⟩ →
        GestureStream.scan actions = some ⟨false, zoomOpen⟩ := by
  unfold emitPendingTap
  cases m.pendingTap with
  | none => exact ⟨m.actions, rfl, fun _ h => h⟩
  | some pending =>
    dsimp only
    split
    · exact ⟨m.actions, rfl, fun _ h => h⟩
    · refine ⟨_, rfl, fun zoomOpen h => ?_⟩
      rw [GestureStream.scan_snoc, h]
      rfl

/-- What a recognised tap leaves: the double click, or the tap waiting for a second one. -/
structure TapOutcome (position : Offset F) (timeStamp : Int) (m m' : MobileGestureMachine F) :
    Prop where
  rest : m' = { m with
    pendingTap := m'.pendingTap, pendingTapTimer := m'.pendingTapTimer, actions := m'.actions }
  recognised : (m'.pendingTap = some { position, timeStamp } ∧
      m'.pendingTapTimer = some (m.clock + mobileDoubleTapInterval)) ∨
    (m'.pendingTap = none ∧ m'.pendingTapTimer = none ∧
      m'.actions = m.actions ++ [.click .leftDoubleClick position])
  stream : ∀ zoomOpen, GestureStream.scan m.actions = some ⟨false, zoomOpen⟩ →
    GestureStream.scan m'.actions = some ⟨false, zoomOpen⟩

theorem handleTap_outcome (position : Offset F) (timeStamp : Int) (m : MobileGestureMachine F) :
    TapOutcome position timeStamp m (handleTap R position timeStamp m) := by
  unfold handleTap
  cases m.pendingTap with
  | none => exact ⟨rfl, .inl ⟨rfl, rfl⟩, fun _ h => h⟩
  | some pending =>
    dsimp only
    split
    · refine ⟨rfl, .inr ⟨rfl, rfl, rfl⟩, fun zoomOpen h => ?_⟩
      rw [onAction, GestureStream.scan_snoc, h]
      rfl
    · obtain ⟨actions, heq, hscan⟩ := emitPendingTap_eq m
      rw [heq]
      exact ⟨rfl, .inl ⟨rfl, rfl⟩, hscan⟩

theorem TapOutcome.timers {position : Offset F} {timeStamp : Int}
    (h : TapOutcome position timeStamp m m') (hdragging : m.dragging = false)
    (hlongPress : m.longPressTimer = none) : TimersOrdered m' := by
  have hrest := h.rest
  rcases h.recognised with ⟨htap, htimer⟩ | ⟨htap, htimer, -⟩
  · refine ⟨?_, ?_, ?_, ?_⟩
    · rw [htap, htimer]
      exact Iff.rfl
    · intro due hdue
      rw [htimer] at hdue
      cases hdue
      rw [hrest]
    · intro due timer _ hlong
      rw [hrest, hlongPress] at hlong
      cases hlong
    · intro hdrag
      rw [hrest, hdragging] at hdrag
      cases hdrag
  · exact .of_no_pending htap htimer

/-! ## A lifted contact -/

/-- The contact at its last position. -/
def lifted (R : Doubles F) (pointer : Int) (position : Offset F) (m : MobileGestureMachine F) :
    MobileGestureMachine F :=
  if position.valid R then moved pointer position m else m

/-- The pointer is gone; what is left is ignored. -/
def ignoreRest (pointer : Int) (m : MobileGestureMachine F) : MobileGestureMachine F :=
  { m with
    contacts := m.contacts.remove pointer
    ignoreUntilClear := !(m.contacts.remove pointer).isEmpty }

/-- One of two fingers has been lifted. -/
def endTwo (R : Doubles F) (gesture : TwoFingerGesture F) (pointer : Int) (timeStamp : Int)
    (m : MobileGestureMachine F) : MobileGestureMachine F :=
  clearSingle (ignoreRest pointer { finishTwoFinger R gesture timeStamp
    (cancelTwoFingerClassification m) with twoFinger := none })

/-- The finger that was followed ends its drag or taps. -/
def endSingle (R : Doubles F) (single : SingleContact F) (position : Offset F) (timeStamp : Int)
    (m : MobileGestureMachine F) : MobileGestureMachine F :=
  let current := if position.valid R then position else single.current
  if m.dragging then onAction (.drag .up current) m
  else if ¬ m.singleMoved ∧ timeStamp - single.downTime ≤ mobileTapMaximumDuration then
    handleTap R current timeStamp m
  else m

/-- The pointer is gone. -/
def removed (pointer : Int) (m : MobileGestureMachine F) : MobileGestureMachine F :=
  { m with contacts := m.contacts.remove pointer }

theorem lifted_eq (pointer : Int) (position : Offset F) (m : MobileGestureMachine F) :
    ∃ contacts : Contacts F, lifted R pointer position m = { m with contacts } ∧
      contacts.pointers = m.contacts.pointers := by
  unfold lifted
  split
  · exact ⟨_, rfl, pointers_moveTo position⟩
  · exact ⟨_, rfl, rfl⟩

/-- What lifting a contact does in each shape. -/
theorem pointerUp_cases (h : Shape m) (pointer : Int) (position : Offset F) (timeStamp : Int) :
    (pointerUp R pointer position timeStamp m = m ∧
      (m.disposed ∨ pointer ∉ m.contacts.pointers)) ∨
    (Ignoring m ∧ pointerUp R pointer position timeStamp m =
      ignoreRest pointer (lifted R pointer position m)) ∨
    (∃ gesture, TwoFingers m gesture ∧ pointer ∈ m.contacts.pointers ∧
      pointerUp R pointer position timeStamp m =
        endTwo R gesture pointer timeStamp (lifted R pointer position m)) ∨
    (∃ single, OneFinger m single ∧ single.pointer = pointer ∧
      pointerUp R pointer position timeStamp m =
        clearSingle (removed pointer (endSingle R single position timeStamp
          (cancelLongPress (lifted R pointer position m))))) := by
  by_cases hknown : m.disposed ∨ pointer ∉ m.contacts.pointers
  · exact .inl ⟨if_pos hknown, hknown⟩
  have hup : pointerUp R pointer position timeStamp m =
      if (lifted R pointer position m).ignoreUntilClear then
        ignoreRest pointer (lifted R pointer position m)
      else
        (lifted R pointer position m).twoFinger.elim
          ((lifted R pointer position m).single.elim
            (removed pointer (lifted R pointer position m)) fun single =>
            if pointer ≠ single.pointer then removed pointer (lifted R pointer position m)
            else clearSingle (removed pointer (endSingle R single position timeStamp
              (cancelLongPress (lifted R pointer position m)))))
          fun gesture => endTwo R gesture pointer timeStamp (lifted R pointer position m) := by
    refine (if_neg hknown).trans ?_
    unfold lifted moved
    dsimp only
    generalize (if position.valid R then
      { m with contacts := m.contacts.moveTo pointer position } else m) = m'
    obtain ⟨_, single, _, _, _, _, twoFinger⟩ := m'
    cases twoFinger <;> cases single <;> rfl
  obtain ⟨contacts, hlifted, -⟩ := lifted_eq (R := R) pointer position m
  have hignore : (lifted R pointer position m).ignoreUntilClear = m.ignoreUntilClear := by
    rw [hlifted]
  have htwoFinger : (lifted R pointer position m).twoFinger = m.twoFinger := by rw [hlifted]
  have hsingle : (lifted R pointer position m).single = m.single := by rw [hlifted]
  rw [hignore, htwoFinger, hsingle] at hup
  simp only [not_or, not_not] at hknown
  cases h with
  | idle hidle =>
    rw [hidle.contacts] at hknown
    exact absurd hknown.2 not_mem_nil
  | @oneFinger single hone =>
    rw [hone.contacts, mem_singleton] at hknown
    rw [hone.ignoring, hone.twoFinger, hone.single] at hup
    refine .inr (.inr (.inr ⟨single, hone, hknown.2.symm, hup.trans ?_⟩))
    rw [if_neg (by decide)]
    exact if_neg fun hne => hne hknown.2
  | twoFingers htwo =>
    rw [htwo.ignoring, htwo.twoFinger] at hup
    exact .inr (.inr (.inl ⟨_, htwo, hknown.2, hup⟩))
  | ignoring hignoring =>
    exact .inr (.inl ⟨hignoring, hup.trans (if_pos hignoring.ignoring)⟩)

/-- What is ignored is gone at once, or it is ignored. -/
theorem ignoreRest_shape (hsingle : m.single = none) (htwo : m.twoFinger = none)
    (hdragging : m.dragging = false) (hlongPress : m.longPressTimer = none)
    (hclassification : m.twoFingerClassificationTimer = none) (hdisposed : m.disposed = false)
    (pointer : Int) : Shape (ignoreRest pointer m) := by
  by_cases hrest : m.contacts.remove pointer = []
  · refine .idle ⟨hrest, hsingle, htwo, ?_, hdragging, hlongPress, hclassification⟩
    change (!(m.contacts.remove pointer).isEmpty) = false
    rw [hrest]
    rfl
  · refine .ignoring ⟨hrest, hsingle, htwo, ?_, hdragging, hlongPress, hclassification, hdisposed⟩
    change (!(m.contacts.remove pointer).isEmpty) = true
    rw [Bool.not_eq_true', isEmpty_eq_false_iff]
    exact hrest

/-- Lifting one of two fingers closes the zoom. -/
theorem finishTwoFinger_eq (timeStamp : Int) (m : MobileGestureMachine F) :
    ∃ actions, finishTwoFinger R gesture timeStamp m = { m with actions } ∧
      (GestureStream.scan m.actions = some ⟨false, gesture.mode = .pinch⟩ →
        GestureStream.scan actions = some ⟨false, false⟩) := by
  unfold finishTwoFinger
  cases gesture.mode with
  | undecided =>
    dsimp only
    split
    · refine ⟨_, rfl, fun h => ?_⟩
      rw [GestureStream.scan_snoc, h]
      rfl
    · exact ⟨m.actions, rfl, fun h => h⟩
  | pinch =>
    refine ⟨_, rfl, fun h => ?_⟩
    rw [GestureStream.scan_snoc, h]
    rfl
  | scroll => exact ⟨m.actions, rfl, fun h => h⟩

/-- The end of a single-finger gesture changes nothing but the pending tap and the
actions. -/
theorem endSingle_eq (single : SingleContact F) (position : Offset F) (timeStamp : Int)
    (htimers : TimersOrdered m) (hlongPress : m.longPressTimer = none) :
    ∃ pendingTap pendingTapTimer actions,
      endSingle R single position timeStamp m =
        { m with pendingTap, pendingTapTimer, actions } ∧
      TimersOrdered { m with pendingTap, pendingTapTimer, actions, dragging := false } ∧
      ∀ zoomOpen, GestureStream.scan m.actions = some ⟨m.dragging, zoomOpen⟩ →
        GestureStream.scan actions = some ⟨false, zoomOpen⟩ := by
  have hsame : TimersOrdered { m with dragging := false } :=
    ⟨htimers.pending_iff, htimers.pending_due, htimers.pending_first, nofun⟩
  unfold endSingle
  dsimp only
  split
  · next hdragging =>
    refine ⟨_, _, _, rfl, ⟨hsame.1, hsame.2, hsame.3, hsame.4⟩, fun zoomOpen h => ?_⟩
    rw [GestureStream.scan_snoc, h, hdragging]
    rfl
  · next hdragging =>
    rw [Bool.not_eq_true] at hdragging
    split
    · have houtcome := handleTap_outcome (R := R)
        (if position.valid R then position else single.current) timeStamp m
      have hordered := houtcome.timers hdragging hlongPress
      refine ⟨_, _, _, houtcome.rest, ?_, fun zoomOpen h => houtcome.stream zoomOpen ?_⟩
      · rw [houtcome.rest] at hordered
        exact ⟨hordered.1, hordered.2, hordered.3, nofun⟩
      · rw [h, hdragging]
    · refine ⟨_, _, _, rfl, ⟨hsame.1, hsame.2, hsame.3, hsame.4⟩, fun zoomOpen h => ?_⟩
      rw [h, hdragging]

theorem pointerUp_sound (h : Sound m) (pointer : Int) (position : Offset F) (timeStamp : Int) :
    Sound (pointerUp R pointer position timeStamp m) := by
  have htimers := h.timers
  obtain ⟨contacts, hlifted, hpointers⟩ := lifted_eq (R := R) pointer position m
  rcases pointerUp_cases (R := R) h.shape pointer position timeStamp with ⟨heq, -⟩ |
    ⟨hignoring, heq⟩ | ⟨gesture, htwo, -, heq⟩ | ⟨single, hone, rfl, heq⟩
  · rwa [heq]
  · rw [heq, hlifted]
    exact ⟨ignoreRest_shape (m := { m with contacts }) hignoring.single hignoring.twoFinger
      hignoring.dragging
      hignoring.longPress hignoring.classification hignoring.disposed pointer,
      htimers.pending_iff, htimers.pending_due, htimers.pending_first, htimers.not_dragging⟩
  · obtain ⟨actions, hfinish, -⟩ := finishTwoFinger_eq (R := R) gesture timeStamp
      (cancelTwoFingerClassification { m with contacts })
    rw [heq, hlifted, endTwo, hfinish]
    exact ⟨ignoreRest_shape (m := clearSingle { cancelTwoFingerClassification
        { m with contacts } with twoFinger := none, actions }) rfl rfl rfl rfl rfl htwo.disposed
        pointer, htimers.pending_iff, htimers.pending_due, nofun, nofun⟩
  · obtain ⟨pendingTap, pendingTapTimer, actions, hend, hordered, -⟩ :=
      endSingle_eq (R := R) (m := cancelLongPress { m with contacts }) single position timeStamp
        ⟨htimers.pending_iff, htimers.pending_due, nofun, htimers.not_dragging⟩ rfl
    rw [heq, hlifted, hend]
    refine ⟨.idle ⟨?_, rfl, hone.twoFinger, hone.ignoring, rfl, rfl, hone.classification⟩,
      hordered.pending_iff, hordered.pending_due, nofun, nofun⟩
    change contacts.remove single.pointer = []
    rw [← pointers_eq_nil, pointers_remove, hpointers, hone.contacts]
    simp

/-- Lifting one of two fingers drops a drag that the second one has taken over. -/
theorem pointerUp_tracks (hs : Sound m) (h : Tracks m) (pointer : Int) (position : Offset F)
    (timeStamp : Int)
    (hdrag : ¬ (m.dragging ∧ m.twoFinger.isSome ∧ pointer ∈ m.contacts.pointers)) :
    Tracks (pointerUp R pointer position timeStamp m) := by
  obtain ⟨contacts, hlifted, hpointers⟩ := lifted_eq (R := R) pointer position m
  rcases pointerUp_cases (R := R) hs.shape pointer position timeStamp with ⟨heq, -⟩ |
    ⟨hignoring, heq⟩ | ⟨gesture, htwo, hmem, heq⟩ | ⟨single, hone, rfl, heq⟩
  · rwa [heq]
  · rw [heq, hlifted]
    exact h
  · obtain ⟨actions, hfinish, hscan⟩ := finishTwoFinger_eq (R := R) gesture timeStamp
      (cancelTwoFingerClassification { m with contacts })
    have hdragging : m.dragging = false := by
      refine Bool.eq_false_iff.mpr fun hdragging => hdrag ⟨hdragging, ?_, hmem⟩
      rw [htwo.twoFinger]
      rfl
    rw [heq, hlifted, endTwo, hfinish]
    refine hscan ?_
    have htracks := (TwoFingers.tracks_iff htwo.twoFinger).mp h
    rw [hdragging] at htracks
    exact htracks
  · obtain ⟨pendingTap, pendingTapTimer, actions, hend, -, hscan⟩ :=
      endSingle_eq (R := R) (m := cancelLongPress { m with contacts }) single position timeStamp
        ⟨hs.timers.pending_iff, hs.timers.pending_due, nofun, hs.timers.not_dragging⟩ rfl
    rw [heq, hlifted, hend]
    exact hscan _ h

/-! ## Timers -/

/-- A live timer that is next is due no later than any other. -/
theorem isNext_le {timer other : GestureTimer} {due : Nat} (h : m.isNext timer)
    (hother : m.due? other = some due) : ∃ first, m.due? timer = some first ∧ first ≤ due := by
  unfold isNext at h
  cases htimer : m.due? timer with
  | none =>
    rw [htimer] at h
    exact nomatch h
  | some first =>
    rw [htimer] at h
    simp only [decide_eq_true_eq, all_cons, all_nil, Bool.and_true, Bool.and_eq_true] at h
    refine ⟨first, rfl, ?_⟩
    obtain ⟨-, hlong, hpending, hclassification⟩ := h
    cases other with
    | longPress =>
      rw [hother] at hlong
      exact of_decide_eq_true hlong
    | pendingTap =>
      rw [hother] at hpending
      exact of_decide_eq_true hpending
    | classification =>
      rw [hother] at hclassification
      exact of_decide_eq_true hclassification

/-- The window of a double tap is closed when a long press has lasted. -/
theorem longPress_no_pending (h : TimersOrdered m) (hnext : m.isNext .longPress)
    {timer : LongPressTimer} (htimer : m.longPressTimer = some timer) :
    m.pendingTapTimer = none ∧ m.pendingTap = none := by
  cases hpending : m.pendingTapTimer with
  | none =>
    refine ⟨rfl, Option.not_isSome_iff_eq_none.mp fun hsome => ?_⟩
    have htap := h.pending_iff.mpr hsome
    rw [hpending] at htap
    exact nomatch htap
  | some due =>
    have hdue : m.due? .pendingTap = some due := hpending
    obtain ⟨first, hfirst, hle⟩ := isNext_le hnext hdue
    have hlt := h.pending_first due timer hpending htimer
    unfold due? at hfirst
    rw [htimer] at hfirst
    cases hfirst
    exact absurd hle (Nat.not_le_of_lt hlt)

theorem longPressFired_sound (h : Sound m) (hlongPress : m.longPressTimer = none)
    (htap : m.pendingTap = none) (htimer : m.pendingTapTimer = none) (timer : LongPressTimer) :
    Sound (longPressFired timer m) := by
  unfold longPressFired
  cases hsingle : m.single with
  | none => exact h
  | some single =>
    dsimp only
    split
    · exact h
    next hcheck =>
    simp only [not_or, Bool.not_eq_true, Option.isSome_eq_false_iff,
      Option.isNone_iff_eq_none] at hcheck
    cases h.shape with
    | idle hidle => exact nomatch hsingle.symm.trans hidle.single
    | oneFinger hone =>
      exact ⟨.oneFinger ⟨hone.contacts, hsingle.symm.trans hone.single, hone.twoFinger,
        hone.ignoring, hone.classification, hone.releaseEmitted, hone.disposed,
        fun _ => hlongPress⟩,
        .of_no_pending htap htimer⟩
    | twoFingers htwo => exact nomatch hcheck.2.2.2.1.symm.trans htwo.twoFinger
    | ignoring hignoring => exact nomatch hsingle.symm.trans hignoring.single

theorem longPressFired_tracks (h : Tracks m)
    (hdragging : m.dragging = false) (timer : LongPressTimer) :
    Tracks (longPressFired timer m) := by
  unfold longPressFired
  cases m.single with
  | none => exact h
  | some single =>
    dsimp only
    split
    · exact h
    · refine h.snoc rfl ?_
      rw [hdragging]
      rfl

/-- A classification that is over leads to the same shape. -/
theorem classificationFired_sound (h : Sound m) (timer : ClassificationTimer) :
    Sound (classificationFired R timer m) := by
  have htimers := h.timers
  unfold classificationFired
  cases htwoFinger : m.twoFinger with
  | none => exact h
  | some gesture =>
    dsimp only
    split
    · exact h
    · obtain ⟨gesture', actions, heq, -⟩ := classifyAndEmitTwoFinger_eq (R := R) gesture m
      rw [heq]
      cases h.shape with
      | idle hidle => exact nomatch htwoFinger.symm.trans hidle.twoFinger
      | oneFinger hone => exact nomatch htwoFinger.symm.trans hone.twoFinger
      | twoFingers htwo =>
        exact ⟨.twoFingers (htwo.changed rfl actions _), htimers.pending_iff,
          htimers.pending_due, htimers.pending_first, htimers.not_dragging⟩
      | ignoring hignoring => exact nomatch htwoFinger.symm.trans hignoring.twoFinger

theorem classificationFired_tracks (h : Tracks m) (timer : ClassificationTimer) :
    Tracks (classificationFired R timer m) := by
  unfold classificationFired
  cases htwoFinger : m.twoFinger with
  | none => exact h
  | some gesture =>
    dsimp only
    split
    · exact h
    · obtain ⟨gesture', actions, heq, hscan⟩ := classifyAndEmitTwoFinger_eq (R := R) gesture m
      rw [heq, TwoFingers.tracks_iff rfl]
      exact hscan _ ((TwoFingers.tracks_iff htwoFinger).mp h)

/-- A machine without a timer that was live. -/
theorem Sound.without_longPress (h : Sound m) : Sound { m with longPressTimer := none } where
  shape := by
    cases h.shape with
    | idle h => exact .idle ⟨h.1, h.2, h.3, h.4, h.5, rfl, h.7⟩
    | oneFinger h => exact .oneFinger ⟨h.1, h.2, h.3, h.4, h.5, h.6, h.7, fun _ => rfl⟩
    | twoFingers h => exact .twoFingers ⟨h.1, h.2, h.3, rfl, h.5, h.6⟩
    | ignoring h => exact .ignoring ⟨h.1, h.2, h.3, h.4, h.5, rfl, h.7, h.8⟩
  timers := ⟨h.timers.pending_iff, h.timers.pending_due, nofun, h.timers.not_dragging⟩

theorem Sound.without_classification (h : Sound m) :
    Sound { m with twoFingerClassificationTimer := none } where
  shape := by
    cases h.shape with
    | idle h => exact .idle ⟨h.1, h.2, h.3, h.4, h.5, h.6, rfl⟩
    | oneFinger h => exact .oneFinger ⟨h.1, h.2, h.3, h.4, rfl, h.6, h.7, h.8⟩
    | twoFingers h => exact .twoFingers ⟨h.1, h.2, h.3, h.4, h.5, h.6⟩
    | ignoring h => exact .ignoring ⟨h.1, h.2, h.3, h.4, h.5, h.6, rfl, h.8⟩
  timers := ⟨h.timers.pending_iff, h.timers.pending_due, h.timers.pending_first,
    h.timers.not_dragging⟩

theorem emitPendingTap_sound (h : Sound m) : Sound (emitPendingTap m) := by
  obtain ⟨actions, heq, -⟩ := emitPendingTap_eq m
  rw [heq]
  refine ⟨?_, .of_no_pending rfl rfl⟩
  cases h.shape with
  | idle h => exact .idle ⟨h.1, h.2, h.3, h.4, h.5, h.6, h.7⟩
  | oneFinger h => exact .oneFinger ⟨h.1, h.2, h.3, h.4, h.5, h.6, h.7, h.8⟩
  | twoFingers h => exact .twoFingers ⟨h.1, h.2, h.3, h.4, h.5, h.6⟩
  | ignoring h => exact .ignoring ⟨h.1, h.2, h.3, h.4, h.5, h.6, h.7, h.8⟩

/-- A live long press belongs to no drag. -/
theorem Shape.longPress_not_dragging (h : Shape m) {timer : LongPressTimer}
    (htimer : m.longPressTimer = some timer) : m.dragging = false := by
  cases h with
  | idle h => exact h.dragging
  | oneFinger h =>
    exact Bool.eq_false_iff.mpr fun hdragging => nomatch htimer.symm.trans (h.longPress hdragging)
  | twoFingers h => exact nomatch htimer.symm.trans h.longPress
  | ignoring h => exact h.dragging

theorem emitPendingTap_tracks (hs : Sound m) (h : Tracks m) : Tracks (emitPendingTap m) := by
  by_cases hdragging : m.dragging = true
  · unfold emitPendingTap
    rw [hs.timers.not_dragging hdragging]
    exact h
  · obtain ⟨actions, heq, hscan⟩ := emitPendingTap_eq m
    rw [Bool.not_eq_true] at hdragging
    rw [heq]
    unfold Tracks zooming at h ⊢
    rw [hdragging] at h ⊢
    exact hscan _ h

theorem fire_sound (h : Sound m) {timer : GestureTimer} (hnext : m.isNext timer) :
    Sound (fire R timer m) := by
  cases timer with
  | longPress =>
    unfold fire
    cases htimer : m.longPressTimer with
    | none => exact h
    | some timer =>
      obtain ⟨hpending, htap⟩ := longPress_no_pending h.timers hnext htimer
      exact longPressFired_sound h.without_longPress rfl htap hpending timer
  | pendingTap => exact emitPendingTap_sound h
  | classification =>
    unfold fire
    cases m.twoFingerClassificationTimer with
    | none => exact h
    | some timer => exact classificationFired_sound h.without_classification timer

theorem fire_tracks (hs : Sound m) (h : Tracks m) {timer : GestureTimer}
    (hnext : m.isNext timer) : Tracks (fire R timer m) := by
  cases timer with
  | longPress =>
    unfold fire
    cases htimer : m.longPressTimer with
    | none => exact h
    | some timer =>
      exact longPressFired_tracks (m := { m with longPressTimer := none }) h
        (hs.shape.longPress_not_dragging htimer) timer
  | pendingTap => exact emitPendingTap_tracks hs h
  | classification =>
    unfold fire
    cases m.twoFingerClassificationTimer with
    | none => exact h
    | some timer =>
      exact classificationFired_tracks (m := { m with twoFingerClassificationTimer := none }) h
        timer

/-! ## Steps -/

theorem handle_sound (h : Sound m) (event : GestureEvent F) : Sound (handle R m event) := by
  cases event with
  | pointerDown pointer position timeStamp => exact pointerDown_sound h pointer position timeStamp
  | pointerMove pointer position timeStamp => exact pointerMove_sound h pointer position
  | pointerUp pointer position timeStamp => exact pointerUp_sound h pointer position timeStamp
  | pointerCancel pointer => exact pointerCancel_sound h pointer
  | cancel => exact cancel_sound h
  | dispose => exact dispose_sound h
  | timer timer =>
    by_cases hnext : m.isNext timer = true
    · rw [handle, if_pos hnext]
      exact fire_sound h hnext
    · rw [handle, if_neg hnext]
      exact h

/-- A finger is lifted from a drag that a second finger has taken over. -/
def DropsDrag (m : MobileGestureMachine F) : GestureEvent F → Prop
  | .pointerUp pointer _ _ => m.dragging ∧ m.twoFinger.isSome ∧ pointer ∈ m.contacts.pointers
  | _ => False

theorem handle_tracks (hs : Sound m) (h : Tracks m) {event : GestureEvent F}
    (hdrag : ¬ DropsDrag m event) : Tracks (handle R m event) := by
  cases event with
  | pointerDown pointer position timeStamp =>
    exact pointerDown_tracks hs h pointer position timeStamp
  | pointerMove pointer position timeStamp => exact pointerMove_tracks hs h pointer position
  | pointerUp pointer position timeStamp =>
    exact pointerUp_tracks hs h pointer position timeStamp hdrag
  | pointerCancel pointer => exact pointerCancel_tracks hs h pointer
  | cancel => exact cancel_tracks hs h
  | dispose => exact dispose_tracks hs h
  | timer timer =>
    by_cases hnext : m.isNext timer = true
    · rw [handle, if_pos hnext]
      exact fire_tracks hs h hnext
    · rw [handle, if_neg hnext]
      exact h

/-- Every event leads to one of the four shapes. -/
theorem step_sound (h : Sound m) (input : GestureInput F) :
    Sound ((machine R).step m input).1 :=
  handle_sound (h.after input.elapsed) input.event

variable (inputs : List (GestureInput F))

theorem run_sound :
    Sound ((machine R).run initial inputs) :=
  (machine R).run_invariant Sound (fun _ input h _ => step_sound h input) sound_initial
    (Machine.guarded_true _ inputs)

/-- Without contacts the machine is idle. -/
theorem Shape.idle_of_contacts (h : Shape m) (hcontacts : m.contacts = []) : Idle m := by
  cases h with
  | idle h => exact h
  | oneFinger h =>
    have hpointers := h.contacts
    rw [hcontacts] at hpointers
    exact nomatch hpointers
  | twoFingers h =>
    have hlength := h.contacts
    rw [hcontacts] at hlength
    exact nomatch hlength
  | ignoring h => exact absurd hcontacts h.contacts

/-- In every run in which no finger is lifted from a drag that a second finger has taken
over, each drag and each zoom is closed before the next one or a click, drags move and
end only while they are open, and no drag is open without a contact. -/
theorem gesture_drag_balance (R : Doubles F) (inputs : List (GestureInput F))
    (h : (machine R).Guarded (fun m input => ¬ DropsDrag m input.event) initial inputs) :
    ∃ stream, GestureStream.scan ((machine R).run initial inputs).actions = some stream ∧
      (((machine R).run initial inputs).contacts = [] → stream.dragOpen = false) := by
  have hrun := (machine R).run_invariant (fun m => Sound m ∧ Tracks m)
    (fun m input hm hinput => ⟨step_sound hm.1 input,
      handle_tracks (hm.1.after input.elapsed) hm.2 hinput⟩)
    ⟨sound_initial, tracks_initial⟩ h
  exact ⟨_, hrun.2, fun hcontacts => (hrun.1.shape.idle_of_contacts hcontacts).dragging⟩

/-- Numbers without rounding, for positions on a horizontal line. -/
def sampleDoubles : Doubles Rat where
  literal value := value
  isFinite _ := true
  add a b := a + b
  sub a b := a - b
  div a b := a / b
  abs a := if a < 0 then -a else a
  max a b := if a < b then b else a
  hypot a _ := if a < 0 then -a else a
  lt a b := a < b
  le a b := a ≤ b
  eq a b := a = b

/-- A long press becomes a drag, which the finger ends. -/
def sampleDrag : List (GestureInput Rat) :=
  [⟨0, .pointerDown 1 ⟨60, 70⟩ 0⟩, ⟨500000, .timer .longPress⟩,
    ⟨50000, .pointerMove 1 ⟨90, 70⟩ 550000⟩, ⟨50000, .pointerUp 1 ⟨100, 70⟩ 600000⟩]

/-- The sample drag is emitted and closed. -/
theorem gesture_drag_balance_sample :
    ((machine sampleDoubles).run initial sampleDrag).actions =
      [.drag .down ⟨60, 70⟩, .drag .move ⟨90, 70⟩, .drag .up ⟨100, 70⟩] ∧
    ∃ stream, GestureStream.scan ((machine sampleDoubles).run initial sampleDrag).actions =
        some stream ∧
      (((machine sampleDoubles).run initial sampleDrag).contacts = [] →
        stream.dragOpen = false) := by
  refine ⟨by decide +kernel,
    gesture_drag_balance sampleDoubles sampleDrag ⟨id, id, id, ?_, trivial⟩⟩
  exact fun hdrops => absurd hdrops.2.1 (by decide +kernel)

/-- A second finger lands during the drag, and both are lifted. -/
def sampleTakenOver : List (GestureInput Rat) :=
  [⟨0, .pointerDown 1 ⟨60, 70⟩ 0⟩, ⟨500000, .timer .longPress⟩,
    ⟨50000, .pointerDown 2 ⟨100, 70⟩ 550000⟩, ⟨400000, .pointerUp 2 ⟨100, 70⟩ 950000⟩,
    ⟨50000, .pointerUp 1 ⟨60, 70⟩ 1000000⟩]

/-- No contact is left, and the drag is still open. -/
theorem drag_left_open :
    ¬ ∃ stream, GestureStream.scan
        ((machine sampleDoubles).run initial sampleTakenOver).actions = some stream ∧
      (((machine sampleDoubles).run initial sampleTakenOver).contacts = [] →
        stream.dragOpen = false) := by
  have hscan : GestureStream.scan
      ((machine sampleDoubles).run initial sampleTakenOver).actions = some ⟨true, false⟩ := by
    decide +kernel
  rintro ⟨stream, hstream, hclosed⟩
  obtain rfl := Option.some.inj (hscan.symm.trans hstream)
  exact absurd (hclosed (by decide +kernel)) (by decide)

/-! ## Contacts that are gone -/

/-- The pointers that are down after an event. -/
def touch (down : List Int) : GestureEvent F → List Int
  | .pointerDown pointer _ _ => down ++ [pointer]
  | .pointerUp pointer _ _ | .pointerCancel pointer => down.filter (· ≠ pointer)
  | .pointerMove _ _ _ | .cancel | .dispose | .timer _ => down

/-- The pointers that have gone down and neither up nor been cancelled. -/
def touching : List Int :=
  inputs.foldl (fun down input => touch down input.event) []

/-- A contact is cancelled when the release has been emitted already. -/
def KeepsContact (m : MobileGestureMachine F) : GestureEvent F → Prop
  | .pointerCancel pointer => m.releaseEmitted ∧ pointer ∈ m.contacts.pointers
  | _ => False

theorem touch_subset {down down' : List Int} (h : down ⊆ down') (event : GestureEvent F) :
    touch down event ⊆ touch down' event := by
  cases event with
  | pointerDown pointer position timeStamp =>
    exact append_subset.mpr ⟨Subset.trans h (subset_append_left _ _), subset_append_right _ _⟩
  | pointerUp pointer position timeStamp => exact filter_subset _ h
  | pointerCancel pointer => exact filter_subset _ h
  | pointerMove pointer position timeStamp => exact h
  | cancel => exact h
  | dispose => exact h
  | timer timer => exact h

theorem Shape.contacts_of_disposed (h : Shape m) (hdisposed : m.disposed = true) :
    m.contacts = [] := by
  cases h with
  | idle h => exact h.contacts
  | oneFinger h => exact nomatch hdisposed.symm.trans h.disposed
  | twoFingers h => exact nomatch hdisposed.symm.trans h.disposed
  | ignoring h => exact nomatch hdisposed.symm.trans h.disposed

theorem cancel_contacts (m : MobileGestureMachine F) :
    cancel m = m ∧ (m.disposed = true ∨ m.releaseEmitted = true) ∨ (cancel m).contacts = [] := by
  unfold cancel
  split
  · next h => exact .inl ⟨rfl, h⟩
  · exact .inr (cancelActiveState_idle m).contacts

theorem fire_contacts (timer : GestureTimer) (m : MobileGestureMachine F) :
    (fire R timer m).contacts = m.contacts := by
  cases timer with
  | longPress =>
    unfold fire
    cases m.longPressTimer with
    | none => rfl
    | some timer =>
      dsimp only [longPressFired]
      cases m.single with
      | none => rfl
      | some single =>
        dsimp only
        split
        · rfl
        · rfl
  | pendingTap =>
    obtain ⟨actions, heq, -⟩ := emitPendingTap_eq m
    change (emitPendingTap m).contacts = m.contacts
    rw [heq]
  | classification =>
    unfold fire
    cases m.twoFingerClassificationTimer with
    | none => rfl
    | some timer =>
      dsimp only [classificationFired]
      cases m.twoFinger with
      | none => rfl
      | some gesture =>
        dsimp only
        split
        · rfl
        · obtain ⟨gesture', actions, heq, -⟩ := classifyAndEmitTwoFinger_eq (R := R) gesture
            { m with twoFingerClassificationTimer := none, twoFinger := some gesture }
          rw [heq]

/-- Every event leaves no more contacts than are down, unless a cancelled contact is
kept. -/
theorem handle_pointers (h : Shape m) {event : GestureEvent F} (hkeep : ¬ KeepsContact m event) :
    (handle R m event).contacts.pointers ⊆ touch m.contacts.pointers event := by
  cases event with
  | pointerDown pointer position timeStamp =>
    change (pointerDown R pointer position timeStamp m).contacts.pointers ⊆
      m.contacts.pointers ++ [pointer]
    have htouched : (touched pointer position m).contacts.pointers ⊆
        m.contacts.pointers ++ [pointer] := by
      simp only [touched, pointers, map_append, map_cons, map_nil]
      exact Subset.refl _
    rcases pointerDown_cases h pointer position timeStamp with heq | ⟨-,
      ⟨-, heq⟩ | ⟨-, -, heq⟩ | ⟨-, -, heq⟩ | ⟨-, heq⟩⟩
    · rw [heq]
      exact subset_append_left _ _
    · rw [heq]
      exact htouched
    · rw [heq]
      exact htouched
    · rw [heq]
      exact htouched
    · rw [heq]
      exact htouched
  | pointerMove pointer position timeStamp =>
    change (pointerMove R pointer position m).contacts.pointers ⊆ m.contacts.pointers
    have hmoved : (moved pointer position m).contacts.pointers ⊆ m.contacts.pointers := by
      rw [moved, pointers_moveTo]
      exact Subset.refl _
    rcases pointerMove_cases (R := R) h pointer position with heq | ⟨-, heq⟩ |
      ⟨gesture, -, heq⟩ | ⟨single, -, heq⟩
    · rw [heq]
      exact Subset.refl _
    · rw [heq]
      exact hmoved
    · obtain ⟨gesture', actions, timer, hupdate, -⟩ := updateTwoFinger_eq (R := R) gesture
        (moved pointer position m)
      rw [heq, hupdate]
      exact hmoved
    · rw [heq]
      have hdrag : (dragTo R single position (moved pointer position m)).contacts =
          (moved pointer position m).contacts := by
        unfold dragTo
        dsimp only
        split
        · rfl
        · split
          · rfl
          · rfl
      rw [hdrag]
      exact hmoved
  | pointerUp pointer position timeStamp =>
    change (pointerUp R pointer position timeStamp m).contacts.pointers ⊆
      m.contacts.pointers.filter (· ≠ pointer)
    obtain ⟨contacts, hlifted, hpointers⟩ := lifted_eq (R := R) pointer position m
    have hremoved : (contacts.remove pointer).pointers ⊆
        m.contacts.pointers.filter (· ≠ pointer) := by
      rw [pointers_remove, hpointers]
      exact Subset.refl _
    rcases pointerUp_cases (R := R) h pointer position timeStamp with ⟨heq, hunknown⟩ |
      ⟨-, heq⟩ | ⟨gesture, -, -, heq⟩ | ⟨single, hone, rfl, heq⟩
    · rw [heq]
      rcases hunknown with hdisposed | hunknown
      · rw [h.contacts_of_disposed hdisposed]
        exact nil_subset _
      · intro p hp
        exact mem_filter.mpr ⟨hp, decide_eq_true fun heq => hunknown (heq ▸ hp)⟩
    · rw [heq, hlifted]
      exact hremoved
    · obtain ⟨actions, hfinish, -⟩ := finishTwoFinger_eq (R := R) gesture timeStamp
        (cancelTwoFingerClassification { m with contacts })
      rw [heq, hlifted, endTwo, hfinish]
      exact hremoved
    · have hend : (endSingle R single position timeStamp
          (cancelLongPress { m with contacts })).contacts = contacts := by
        unfold endSingle
        dsimp only
        split
        · rfl
        · split
          · rw [(handleTap_outcome _ _ _).rest]
            rfl
          · rfl
      rw [heq, hlifted]
      change ((endSingle R single position timeStamp
        (cancelLongPress { m with contacts })).contacts.remove single.pointer).pointers ⊆ _
      rw [hend]
      exact hremoved
  | pointerCancel pointer =>
    change (pointerCancel pointer m).contacts.pointers ⊆ m.contacts.pointers.filter (· ≠ pointer)
    by_cases hmem : pointer ∈ m.contacts.pointers
    · rw [pointerCancel, if_pos hmem]
      rcases cancel_contacts m with ⟨heq, hdisposed | hreleased⟩ | hnil
      · rw [heq, h.contacts_of_disposed hdisposed]
        exact nil_subset _
      · exact absurd ⟨hreleased, hmem⟩ hkeep
      · rw [hnil]
        exact nil_subset _
    · rw [pointerCancel, if_neg hmem]
      intro p hp
      exact mem_filter.mpr ⟨hp, decide_eq_true fun heq => hmem (heq ▸ hp)⟩
  | cancel =>
    change (cancel m).contacts.pointers ⊆ m.contacts.pointers
    rcases cancel_contacts m with ⟨heq, -⟩ | hnil
    · rw [heq]
      exact Subset.refl _
    · rw [hnil]
      exact nil_subset _
  | dispose =>
    change (dispose m).contacts.pointers ⊆ m.contacts.pointers
    unfold dispose
    split
    · exact Subset.refl _
    · change (cancelActiveState m).contacts.pointers ⊆ m.contacts.pointers
      rw [(cancelActiveState_idle m).contacts]
      exact nil_subset _
  | timer timer =>
    change (if m.isNext timer then fire R timer m else m).contacts.pointers ⊆ m.contacts.pointers
    split
    · rw [fire_contacts]
      exact Subset.refl _
    · exact Subset.refl _

theorem run_pointers
    (h : (machine R).Guarded (fun m input => ¬ KeepsContact m input.event) initial inputs) :
    ((machine R).run initial inputs).contacts.pointers ⊆ touching inputs := by
  have hrun := (machine R).history_invariant
    (fun past m => Sound m ∧ m.contacts.pointers ⊆ touching (past.map (·.input)))
    (fun past m input hm hinput => ?_) [] ⟨sound_initial, nil_subset _⟩ h
  · rw [nil_append, Machine.trace_map_input] at hrun
    exact hrun.2
  · refine ⟨step_sound hm.1 input, ?_⟩
    rw [map_append, touching, foldl_append]
    exact Subset.trans (handle_pointers (hm.1.after input.elapsed).shape hinput)
      (touch_subset hm.2 input.event)

/-! ## The next tap -/

/-- A single contact, down and up again, with timers firing between. -/
def tap (pointer : Int) (down up : Offset F) (downTime upTime : Int) (before : Nat)
    (between : List (Nat × GestureTimer)) (last : Nat) : List (GestureInput F) :=
  ⟨before, .pointerDown pointer down downTime⟩ ::
    (between.map (fun entry => ⟨entry.1, .timer entry.2⟩) ++ [⟨last, .pointerUp pointer up upTime⟩])

/-- A short tap becomes a double click, or waits for the click. -/
def RecognisesTap (R : Doubles F) (m : MobileGestureMachine F) : Prop :=
  ∀ (pointer : Int) (down up : Offset F) (downTime upTime : Int) (before : Nat)
    (between : List (Nat × GestureTimer)) (last : Nat),
    down.valid R → upTime - downTime ≤ mobileTapMaximumDuration →
    (between.map (·.1)).sum + last < mobileLongPressDelay →
    ((machine R).run m (tap pointer down up downTime upTime before between last)).pendingTap =
        some ⟨if up.valid R then up else down, upTime⟩ ∨
      ((machine R).run m
        (tap pointer down up downTime upTime before between last)).actions.getLast? =
        some (.click .leftDoubleClick (if up.valid R then up else down))

/-- A finger is down that has neither moved nor been held for long. -/
structure Tapping (m : MobileGestureMachine F) (single : SingleContact F) (due : Nat) : Prop where
  oneFinger : OneFinger m single
  notMoved : m.singleMoved = false
  notDragging : m.dragging = false
  longPress : m.longPressTimer = some { due, pointer := single.pointer }

theorem isNext_due {timer : GestureTimer} (h : m.isNext timer) :
    ∃ due, m.due? timer = some due ∧ due ≤ m.clock := by
  unfold isNext at h
  cases htimer : m.due? timer with
  | none =>
    rw [htimer] at h
    exact nomatch h
  | some due =>
    rw [htimer] at h
    exact ⟨due, rfl, (of_decide_eq_true h).1⟩

/-- A timer does not end a short tap. -/
theorem Tapping.fire {single : SingleContact F} {due : Nat} (h : Tapping m single due)
    (hclock : m.clock < due) {timer : GestureTimer} (hnext : m.isNext timer) :
    Tapping (fire R timer m) single due ∧ (fire R timer m).clock = m.clock := by
  have hone := h.oneFinger
  cases timer with
  | longPress =>
    obtain ⟨due', hdue, hle⟩ := isNext_due hnext
    unfold due? at hdue
    rw [h.longPress] at hdue
    cases hdue
    exact absurd hle (Nat.not_le_of_lt hclock)
  | pendingTap =>
    obtain ⟨actions, heq, -⟩ := emitPendingTap_eq m
    change Tapping (emitPendingTap m) single due ∧ (emitPendingTap m).clock = m.clock
    rw [heq]
    exact ⟨⟨⟨hone.1, hone.2, hone.3, hone.4, hone.5, hone.6, hone.7, hone.8⟩, h.notMoved,
      h.notDragging, h.longPress⟩, rfl⟩
  | classification =>
    unfold MobileGestureMachine.fire
    rw [hone.classification]
    exact ⟨h, rfl⟩

theorem Tapping.step {single : SingleContact F} {due elapsed : Nat} (h : Tapping m single due)
    (hclock : m.clock + elapsed < due) (timer : GestureTimer) :
    Tapping ((machine R).step m ⟨elapsed, .timer timer⟩).1 single due ∧
      ((machine R).step m ⟨elapsed, .timer timer⟩).1.clock = m.clock + elapsed := by
  have hafter : Tapping (m.after elapsed) single due := by
    have hone := h.oneFinger
    exact ⟨⟨hone.1, hone.2, hone.3, hone.4, hone.5, hone.6, hone.7, hone.8⟩, h.notMoved,
      h.notDragging, h.longPress⟩
  change Tapping (if (m.after elapsed).isNext timer then MobileGestureMachine.fire R timer
    (m.after elapsed) else m.after elapsed) single due ∧ (if (m.after elapsed).isNext timer then
    MobileGestureMachine.fire R timer (m.after elapsed) else m.after elapsed).clock = _
  by_cases hnext : (m.after elapsed).isNext timer = true
  · rw [if_pos hnext]
    exact hafter.fire hclock hnext
  · rw [if_neg hnext]
    exact ⟨hafter, rfl⟩

/-- Timers do not end a short tap. -/
theorem Tapping.run {single : SingleContact F} {due : Nat} (h : Tapping m single due)
    (between : List (Nat × GestureTimer)) (hclock : m.clock + (between.map (·.1)).sum < due) :
    Tapping ((machine R).run m (between.map fun entry => ⟨entry.1, .timer entry.2⟩))
      single due := by
  induction between generalizing m with
  | nil => exact h
  | cons entry between ih =>
    rw [map_cons, sum_cons] at hclock
    have helapsed : m.clock + entry.1 < due := by omega
    obtain ⟨hstep, hnow⟩ := h.step (R := R) helapsed entry.2
    rw [map_cons, Machine.run_cons]
    refine ih hstep ?_
    rw [hnow]
    omega

/-- The tap is recognised when the finger is lifted. -/
theorem Tapping.pointerUp {single : SingleContact F} {due : Nat} (h : Tapping m single due)
    (up : Offset F) {upTime : Int}
    (htime : upTime - single.downTime ≤ mobileTapMaximumDuration) :
    (pointerUp R single.pointer up upTime m).pendingTap =
        some ⟨if up.valid R then up else single.current, upTime⟩ ∨
      (pointerUp R single.pointer up upTime m).actions.getLast? =
        some (.click .leftDoubleClick (if up.valid R then up else single.current)) := by
  have hone := h.oneFinger
  obtain ⟨contacts, hlifted, -⟩ := lifted_eq (R := R) single.pointer up m
  have hend : endSingle R single up upTime (cancelLongPress { m with contacts }) =
      handleTap R (if up.valid R then up else single.current) upTime
        (cancelLongPress { m with contacts }) := by
    unfold endSingle
    dsimp only
    rw [if_neg (by simp [cancelLongPress, h.notDragging]),
      if_pos ⟨by simp [cancelLongPress, h.notMoved], htime⟩]
  rcases pointerUp_cases (R := R) (.oneFinger hone) single.pointer up upTime with
    ⟨-, hunknown⟩ | ⟨hignoring, -⟩ | ⟨gesture, htwo, -⟩ | ⟨single', hone', -, heq⟩
  · rw [hone.contacts, hone.disposed] at hunknown
    simp at hunknown
  · exact nomatch hone.single.symm.trans hignoring.single
  · exact nomatch hone.twoFinger.symm.trans htwo.twoFinger
  · obtain rfl := Option.some.inj (hone.single.symm.trans hone'.single)
    rw [heq, hlifted, hend]
    rcases (handleTap_outcome (R := R) (if up.valid R then up else single.current) upTime
      (cancelLongPress { m with contacts })).recognised with ⟨htap, -⟩ | ⟨-, -, hactions⟩
    · exact .inl htap
    · refine .inr ?_
      change (handleTap R (if up.valid R then up else single.current) upTime
        (cancelLongPress { m with contacts })).actions.getLast? = _
      rw [hactions, getLast?_concat]

/-- An idle machine recognises a tap. -/
theorem Idle.recognisesTap (h : Idle m) (hdisposed : m.disposed = false) : RecognisesTap R m := by
  intro pointer down up downTime upTime before between last hvalid htime hshort
  have hnew : ¬ ((m.after before).disposed = true ∨ pointer ∈ (m.after before).contacts.pointers ∨
      ¬ down.valid R = true) := by
    simp [after, hdisposed, h.contacts, pointers, hvalid]
  have hidle : Idle (m.after before) := ⟨h.1, h.2, h.3, h.4, h.5, h.6, h.7⟩
  have hdown : ((machine R).step m ⟨before, .pointerDown pointer down downTime⟩).1 =
      beginSingle pointer down downTime (touched pointer down (m.after before)) :=
    pointerDown_idle downTime hnew hidle
  have htapping : Tapping ((machine R).step m ⟨before, .pointerDown pointer down downTime⟩).1
      { pointer, downTime, start := down, current := down }
      (m.clock + before + mobileLongPressDelay) := by
    rw [hdown]
    refine ⟨⟨?_, rfl, h.twoFinger, h.ignoring, h.classification, rfl, hdisposed, nofun⟩, rfl, rfl,
      rfl⟩
    simp [beginSingle, touched, hidle.contacts, pointers]
  have hclock : ((machine R).step m ⟨before, .pointerDown pointer down downTime⟩).1.clock =
      m.clock + before := by
    rw [hdown]
    rfl
  have hheld := htapping.run (R := R) between (by omega)
  rw [tap, Machine.run_cons, Machine.run_snoc]
  have hone := hheld.oneFinger
  have hlast : Tapping (((machine R).run ((machine R).step m
      ⟨before, .pointerDown pointer down downTime⟩).1
      (between.map fun entry => ⟨entry.1, .timer entry.2⟩)).after last)
      { pointer, downTime, start := down, current := down }
      (m.clock + before + mobileLongPressDelay) :=
    ⟨⟨hone.1, hone.2, hone.3, hone.4, hone.5, hone.6, hone.7, hone.8⟩, hheld.notMoved,
      hheld.notDragging, hheld.longPress⟩
  exact hlast.pointerUp up htime

/-- When every contact that went down has gone up or been cancelled, nothing is left of
it: no contact, no gesture and no timer of one, and the next tap is recognised. -/
structure Recovered (R : Doubles F) (m : MobileGestureMachine F) : Prop where
  contacts : m.contacts = []
  ignoring : m.ignoreUntilClear = false
  single : m.single = none
  twoFinger : m.twoFinger = none
  longPress : m.longPressTimer = none
  classification : m.twoFingerClassificationTimer = none
  tap : m.disposed = false → RecognisesTap R m

/-- In every run in which no contact is cancelled after the release of a third one, the
machine recovers when all contacts are gone. -/
theorem gesture_recovery (R : Doubles F) (inputs : List (GestureInput F))
    (h : (machine R).Guarded (fun m input => ¬ KeepsContact m input.event) initial inputs)
    (hgone : touching inputs = []) : Recovered R ((machine R).run initial inputs) := by
  have hpointers := run_pointers inputs h
  rw [hgone, subset_nil, pointers_eq_nil] at hpointers
  have hidle := (run_sound (R := R) inputs).shape.idle_of_contacts hpointers
  exact ⟨hidle.contacts, hidle.ignoring, hidle.single, hidle.twoFinger, hidle.longPress,
    hidle.classification, hidle.recognisesTap⟩

/-- Three fingers land and are lifted, as in the sample of a third contact. -/
def sampleThird : List (GestureInput Rat) :=
  [⟨0, .pointerDown 1 ⟨80, 100⟩ 0⟩, ⟨10000, .pointerDown 2 ⟨120, 100⟩ 10000⟩,
    ⟨10000, .pointerDown 3 ⟨100, 100⟩ 20000⟩, ⟨10000, .pointerUp 1 ⟨80, 100⟩ 30000⟩,
    ⟨10000, .pointerUp 2 ⟨120, 100⟩ 40000⟩, ⟨10000, .pointerUp 3 ⟨100, 100⟩ 50000⟩]

/-- The machine recovers from the third finger. -/
theorem gesture_recovery_sample :
    ((machine sampleDoubles).run initial sampleThird).actions = [.release] ∧
      Recovered sampleDoubles ((machine sampleDoubles).run initial sampleThird) :=
  ⟨by decide +kernel, gesture_recovery sampleDoubles sampleThird
    ⟨id, id, id, id, id, id, trivial⟩ (by decide +kernel)⟩

/-- Three fingers land and are cancelled. -/
def sampleCancelled : List (GestureInput Rat) :=
  [⟨0, .pointerDown 1 ⟨80, 100⟩ 0⟩, ⟨10000, .pointerDown 2 ⟨120, 100⟩ 10000⟩,
    ⟨10000, .pointerDown 3 ⟨100, 100⟩ 20000⟩, ⟨10000, .pointerCancel 1⟩,
    ⟨0, .pointerCancel 2⟩, ⟨0, .pointerCancel 3⟩]

/-- All contacts have been cancelled, and the machine still ignores them. -/
theorem ignoring_after_cancel :
    touching sampleCancelled = [] ∧
      ((machine sampleDoubles).run initial sampleCancelled).ignoreUntilClear = true ∧
      ¬ Recovered sampleDoubles ((machine sampleDoubles).run initial sampleCancelled) := by
  have hignoring : ((machine sampleDoubles).run initial sampleCancelled).ignoreUntilClear =
      true := by decide +kernel
  exact ⟨by decide +kernel, hignoring, fun h => nomatch hignoring.symm.trans h.ignoring⟩

end MobileGestureMachine

end Client

end Roammand
