import Roammand.Client.InputSender
import Mathlib.Data.List.Range
import Mathlib.Data.List.Perm.Basic

/-!
# The queue of the input sender

Whatever its owner, the channels and the timers do, and in whatever order, the sender
keeps its reliable queue in shape.  The proof goes through the few elementary changes of
the sender: an event is queued, a task is handed over, settled or cancelled, or the
sender ends.  Everything else touches only flags.

Main results:

- Definition `Pumped`: what going on with the queue can do.
- Definition `QueueSound`: the invariant of the queue.
- Theorem `queue_integrity`: it holds after every run, and each step keeps what has been
  handed over and completed.
-/

namespace Roammand

namespace Client

open Library Host List

/-- The action offers input. -/
def SenderAction.isInput : SenderAction → Bool
  | .pointerButton .. | .pointerClick .. | .keyboard .. | .text _ | .scroll .. | .pointerMove .. =>
    true
  | _ => false

namespace RemoteInputSender

/-! ## What going on with the queue can do -/

/-- The possible results of going on with the queue. -/
inductive Pumped (s : RemoteInputSender) : RemoteInputSender → Prop
  | rest : Pumped s s
  | reading : Pumped s { s with reliableBufferReadInFlight := true }
  | paused (hfailed : s.reliableFailed = false) : Pumped s s.pauseReliable
  | aborted : Pumped s s.abort
  | handed {task : ReliableInputTask} {queue : List ReliableInputTask}
      (hqueue : s.reliableQueue = task :: queue) (hactive : s.activeReliable = none)
      (hfailed : s.reliableFailed = false) : Pumped s (s.handOver task queue)
  | refused {task : ReliableInputTask} {queue : List ReliableInputTask}
      (hqueue : s.reliableQueue = task :: queue) (hactive : s.activeReliable = none)
      (hfailed : s.reliableFailed = false) : Pumped s (s.handOver task queue).abort

variable (channels : InputDataChannels)

/-- A dispatch goes on with the queue. -/
theorem dispatchReliable_pumped (bufferedAmount : Int) (s : RemoteInputSender) :
    Pumped s (s.dispatchReliable channels bufferedAmount) := by
  unfold dispatchReliable
  split
  · exact .rest
  · rename_i task queue hqueue
    by_cases hstop : s.reliableFailed ∨ s.activeReliable.isSome
    · rw [if_pos hstop]
      exact .rest
    · rw [if_neg hstop]
      rw [not_or, Bool.not_eq_true, Option.not_isSome_iff_eq_none] at hstop
      split_ifs
      · exact .paused hstop.1
      · exact .handed hqueue hstop.2 hstop.1
      · exact .refused hqueue hstop.2 hstop.1

/-- So does a pump, or it reads the buffered amount first. -/
theorem pumpReliable_pumped (s : RemoteInputSender) : Pumped s (s.pumpReliable channels) := by
  unfold pumpReliable
  split_ifs
  · exact .rest
  · exact .reading
  · split
    · exact dispatchReliable_pumped channels _ s
    · exact .aborted

/-- A property that the elementary changes keep is kept by going on with the queue. -/
theorem Pumped.keeps {P : RemoteInputSender → Prop} {s s' : RemoteInputSender}
    (h : Pumped s s') (hs : P s)
    (hreading : ∀ s, P s → P { s with reliableBufferReadInFlight := true })
    (hpaused : ∀ s, s.reliableFailed = false → P s → P s.pauseReliable)
    (habort : ∀ s, P s → P s.abort)
    (hhanded : ∀ s task queue, s.reliableQueue = task :: queue → s.activeReliable = none →
      s.reliableFailed = false → P s → P (s.handOver task queue)) : P s' := by
  cases h with
  | rest => exact hs
  | reading => exact hreading s hs
  | paused hfailed => exact hpaused s hfailed hs
  | aborted => exact habort s hs
  | handed hqueue hactive hfailed => exact hhanded s _ _ hqueue hactive hfailed hs
  | refused hqueue hactive hfailed =>
    exact habort _ (hhanded s _ _ hqueue hactive hfailed hs)

/-! ## What input leads to -/

/-- The event is not one of the keyboard, and releases nothing. -/
def Plain : ReliableInputEvent → Prop
  | .keyboard .. => False
  | .releaseAllInput => False
  | _ => True

/-- The possible results of an input: it is refused, before or after the mark of the last release is
cleared, or it is sent over one of the channels, or it waits for the next frame. -/
inductive Entered (channels : InputDataChannels) (action : SenderAction) (s : RemoteInputSender) :
    RemoteInputSender × SenderFuture → Prop
  | refused (code : InputSenderErrorCode) : Entered channels action s (s, .failed code)
  | invalid (hopen : s.ensureOpen = .ok ()) (code : InputSenderErrorCode) :
    Entered channels action s (s.clearRelease, .failed code)
  | reliable (hopen : s.ensureOpen = .ok ()) (event : ReliableInputEvent)
      (hplain : action.isKeyboard = false → Plain event) :
    Entered channels action s (s.clearRelease.sendReliable channels event)
  | fast (hopen : s.ensureOpen = .ok ()) (event : PointerFastEvent) :
    Entered channels action s (s.clearRelease.sendFastBestEffort channels event)
  | waiting (hopen : s.ensureOpen = .ok ()) (move : PendingPointerMove) :
    Entered channels action s
      (schedulePendingPointerMove { s.clearRelease with pendingMove := some move }, .done)

theorem sendPointerButton_entered {action : SenderAction} (button : PointerButton)
    (kind : ButtonAction) (x y : Int) (s : RemoteInputSender) :
    Entered channels action s (s.sendPointerButton channels button kind x y) := by
  unfold sendPointerButton
  split
  · exact .refused _
  · rename_i hopen
    dsimp only
    split
    · exact .invalid hopen _
    · split_ifs
      · exact .invalid hopen _
      · exact .reliable hopen _ fun _ => trivial

/-- Every input leads to one of these. -/
theorem perform_entered {action : SenderAction} (hinput : action.isInput = true)
    (s : RemoteInputSender) : Entered channels action s (action.perform channels s) := by
  cases action with
  | pointerButton button action x y => exact sendPointerButton_entered channels button action x y s
  | pointerClick button action x y =>
    simp only [SenderAction.perform, sendPointerClick]
    split_ifs
    · exact .refused _
    · exact sendPointerButton_entered channels button action x y s
  | keyboard action usbHidUsage modifierBits =>
    simp only [SenderAction.perform, sendKeyboard]
    split
    · exact .refused _
    · rename_i hopen
      split_ifs
      · exact .invalid hopen _
      · exact .invalid hopen _
      · exact .reliable hopen _ fun hkeyboard => by cases hkeyboard
  | text value =>
    simp only [SenderAction.perform, sendText]
    split
    · exact .refused _
    · rename_i hopen
      split_ifs
      · exact .refused _
      · exact .reliable hopen _ fun _ => trivial
  | scroll deltaX deltaY =>
    simp only [SenderAction.perform, sendScroll]
    split
    · exact .refused _
    · rename_i hopen
      split_ifs
      · exact .refused _
      · exact .fast hopen _
  | pointerMove x y pressedButtonBits =>
    simp only [SenderAction.perform, queuePointerMove]
    split
    · exact .refused _
    · rename_i hopen
      split
      · exact .invalid hopen _
      · split_ifs
        · exact .invalid hopen _
        · exact .waiting hopen _
  | _ => cases hinput

/-! ## Completed futures -/

/-- Failing tasks whose futures are open completes each of them once. -/
theorem foldl_completeError (code : InputSenderErrorCode) {tasks : List ReliableInputTask}
    {completions : List (Nat × Option InputSenderErrorCode)}
    (h : (completions.map (·.1) ++ tasks.map (·.id)).Nodup) :
    tasks.foldl (completeError code) completions =
      completions ++ tasks.map fun task => (task.id, some code) := by
  induction tasks generalizing completions with
  | nil => simp
  | cons task tasks ih =>
    have hopen : task.id ∉ completions.map (·.1) := fun hmem =>
      (nodup_append.mp h).2.2 _ hmem _ (by simp) rfl
    have hone : completeError code completions task = completions ++ [(task.id, some code)] :=
      if_neg hopen
    rw [foldl_cons, hone, ih (by simpa using h)]
    simp

/-! ## The invariant -/

/-- The numbers of the tasks that have been handed over, in their order. -/
def handedIds (s : RemoteInputSender) : List Nat := s.handedReliable.map (·.1)

/-- The numbers of the tasks that have not been settled. -/
def pendingIds (s : RemoteInputSender) : List Nat := s.pendingTasks.map (·.id)

/-- How many tasks the channel has sent. -/
def sentCount (s : RemoteInputSender) : Nat := s.completions.countP fun c => c.2.isNone

/-- The queue is in shape. -/
structure QueueSound (s : RemoteInputSender) : Prop where
  /-- The envelopes carry the numbers from one on, without a gap. -/
  numbered : s.handedReliable.map (·.2.sequence) =
    (range s.handedReliable.length).map fun k => UInt64.ofNat (k + 1)
  next : s.reliableSequence = UInt64.ofNat s.handedReliable.length
  /-- Tasks are handed over in the order in which they were queued. -/
  ordered : (s.handedIds ++ s.reliableQueue.map (·.id)).Pairwise (· < ·)
  /-- An envelope carries the event of its task. -/
  envelopes : ∀ h ∈ s.handedReliable, h.2.sessionId = s.sessionId ∧
    ∃ event, h.2.event = some event ∧ s.accepted[h.1]? = some event
  tasks : ∀ task ∈ s.pendingTasks,
    s.accepted[task.id]? = some task.event ∧ task.budgetBytes = s.budgetBytes task.event
  /-- The active task is the last one that was handed over. -/
  active : ∀ task, s.activeReliable = some task → s.handedIds.getLast? = some task.id
  /-- At most one send has not ended. -/
  oneActive : s.handedReliable.length ≤ s.sentCount + 1 ∧
    (s.reliableFailed = false →
      s.handedReliable.length = s.sentCount + s.activeReliable.toList.length)
  bytes : s.pendingReliableBytes = ((s.pendingTasks.map (·.budgetBytes)).sum : Nat)
  withinBytes : s.pendingReliableBytes ≤ maxPendingReliableInputBytes
  withinEvents : s.pendingTasks.length ≤ maxPendingReliableInputEvents
  /-- Each future has completed once or belongs to one task that is not settled. -/
  futures : (s.completions.map (·.1) ++ s.pendingIds).Perm (range s.accepted.length)
  /-- A future that has completed well is that of a task that was handed over. -/
  sent : ∀ c ∈ s.completions, c.2 = none → c.1 ∈ s.handedIds
  /-- A task that was cancelled is not handed over. -/
  cancelled : ∀ c ∈ s.completions, c.2 = some .cancelled → c.1 ∉ s.handedIds
  timers : s.timers.Perm s.pendingIds
  /-- A sender that has failed has nothing left to do. -/
  ended : s.reliableFailed = true → s.pendingTasks = [] ∧ s.suspended = true ∧
    s.pendingMove = none ∧ s.reliableRetryTimer = false

/-- Closing awaits futures of this sender. -/
structure CloseSound (s : RemoteInputSender) : Prop where
  called : s.closed = true ↔ s.closeFuture ≠ .notCalled
  awaited : ∀ id, s.closeFuture = .releasing id ∨ s.closeFuture = .controlling id →
    id < s.accepted.length

/-- While tasks are queued, something is under way that goes on with them. -/
def UnderWay (s : RemoteInputSender) : Prop :=
  s.reliableFailed = false → s.reliableQueue ≠ [] →
    s.activeReliable.isSome ∨ s.reliableBufferReadInFlight ∨ s.reliableRetryTimer

/-- From `s`, in which what was under way is over, the queue has gone on. -/
def GoesOn (s s' : RemoteInputSender) : Prop := Pumped s s' ∧ UnderWay s'

variable (encoder : InputEncoder)

variable (sessionId : Bytes)

/-- The queue of a new sender is in shape. -/
theorem initial_sound : QueueSound (initial encoder sessionId) where
  numbered := rfl
  next := rfl
  ordered := Pairwise.nil
  envelopes := nofun
  tasks := nofun
  active := nofun
  oneActive := ⟨Nat.zero_le _, fun _ => rfl⟩
  bytes := rfl
  withinBytes := (by decide : (0 : Int) ≤ 65536)
  withinEvents := Nat.zero_le _
  futures := .refl _
  sent := nofun
  cancelled := nofun
  timers := .refl _
  ended := nofun

/-- A new sender has not been closed. -/
theorem initial_closeSound : CloseSound (initial encoder sessionId) where
  called := by simp [initial]
  awaited := by simp [initial]

namespace QueueSound

variable {s : RemoteInputSender}

/-- No task completes twice, nor while it is pending. -/
theorem nodup (h : QueueSound s) : (s.completions.map (·.1) ++ s.pendingIds).Nodup :=
  h.futures.nodup_iff.mpr nodup_range

/-- A task that is not settled has a number that has been given out. -/
theorem pending_lt (h : QueueSound s) {task : ReliableInputTask} (ht : task ∈ s.pendingTasks) :
    task.id < s.accepted.length :=
  (List.getElem?_eq_some_iff.mp (h.tasks task ht).1).1

/-- What has been handed over had been accepted. -/
theorem handed_lt (h : QueueSound s) {id : Nat} (hid : id ∈ s.handedIds) :
    id < s.accepted.length := by
  obtain ⟨entry, hentry, rfl⟩ := mem_map.mp hid
  obtain ⟨_, event, _, hevent⟩ := h.envelopes entry hentry
  exact (List.getElem?_eq_some_iff.mp hevent).1

/-! ### The elementary changes -/

theorem withReading (h : QueueSound s) (reading : Bool) :
    QueueSound { s with reliableBufferReadInFlight := reading } :=
  { h with numbered := h.numbered }

/-- The mark of a release that was sent is not part of the queue. -/
theorem withReleaseSent (h : QueueSound s) (released : Bool) :
    QueueSound { s with releaseSent := released } :=
  { h with numbered := h.numbered }

/-- An abort gives every pending task its result. -/
theorem abort_sound (h : QueueSound s) : QueueSound s.abort := by
  unfold abort
  by_cases hfailed : s.reliableFailed = true
  · rw [if_pos hfailed]
    exact h
  rw [if_neg hfailed]
  have hcompletions : (failReliableTasks .channel s.pendingTasks s).completions =
      s.completions ++ s.pendingTasks.map fun task => (task.id, some .channel) :=
    foldl_completeError .channel h.nodup
  have hids : (s.pendingTasks.map fun task => (task.id, some InputSenderErrorCode.channel)).map
      (·.1) = s.pendingIds := by
    simp [pendingIds]
  refine { h with
    ordered := ?_
    tasks := nofun
    active := nofun
    oneActive := ⟨?_, nofun⟩
    bytes := rfl
    withinBytes := (by decide : (0 : Int) ≤ 65536)
    withinEvents := Nat.zero_le _
    futures := ?_
    sent := ?_
    cancelled := ?_
    timers := ?_
    ended := fun _ => ⟨rfl, rfl, rfl, rfl⟩ }
  · rw [map_nil, append_nil]
    exact (pairwise_append.mp h.ordered).1
  · have hcount : sentCount { failReliableTasks .channel s.pendingTasks s with
        reliableFailed := true } = s.sentCount := by
      simp [sentCount, hcompletions, countP_append, countP_map, Function.comp_def]
    exact hcount ▸ h.oneActive.1
  · rw [hcompletions, map_append, hids]
    simpa [pendingIds, pendingTasks, failReliableTasks] using h.futures
  · rw [hcompletions]
    intro c hc hnone
    rcases mem_append.mp hc with hc | hc
    · exact h.sent c hc hnone
    · obtain ⟨task, _, rfl⟩ := mem_map.mp hc
      cases hnone
  · rw [hcompletions]
    intro c hc hcode
    rcases mem_append.mp hc with hc | hc
    · exact h.cancelled c hc hcode
    · obtain ⟨task, _, rfl⟩ := mem_map.mp hc
      cases hcode
  · have hnone : s.timers.filter (fun id => id ∉ s.pendingTasks.map (·.id)) = [] := by
      refine filter_eq_nil_iff.mpr fun id hid => ?_
      simpa [pendingIds] using h.timers.mem_iff.mp hid
    have htimers : (failReliableTasks .channel s.pendingTasks s).timers = [] := hnone
    rw [htimers]
    exact .refl _

/-- A pause only sets the timer. -/
theorem pauseReliable_sound (hfailed : s.reliableFailed = false) (h : QueueSound s) :
    QueueSound s.pauseReliable :=
  { h with ended := fun hend => absurd (hend.symm.trans hfailed) nofun }

variable {task : ReliableInputTask}

/-- The first task of the queue becomes the active one. -/
theorem handOver_sound {queue : List ReliableInputTask}
    (hqueue : s.reliableQueue = task :: queue) (hactive : s.activeReliable = none)
    (hfailed : s.reliableFailed = false) (h : QueueSound s) :
    QueueSound (s.handOver task queue) := by
  have hpending : (s.handOver task queue).pendingTasks = s.pendingTasks := by
    simp [pendingTasks, handOver, hqueue, hactive]
  have hids : (s.handOver task queue).pendingIds = s.pendingIds := by
    rw [pendingIds, hpending, pendingIds]
  have hmem : task ∈ s.pendingTasks := by simp [pendingTasks, hqueue]
  have hhanded : (s.handOver task queue).handedIds = s.handedIds ++ [task.id] := by
    simp [handedIds, handOver]
  have hlength : (s.handOver task queue).handedReliable.length =
      s.handedReliable.length + 1 := by
    simp [handOver]
  have hnext : (s.handOver task queue).reliableSequence =
      UInt64.ofNat (s.handedReliable.length + 1) := by
    simp [handOver, h.next]
  refine { h with
    numbered := ?_
    next := hlength ▸ hnext
    ordered := ?_
    envelopes := ?_
    tasks := hpending ▸ h.tasks
    active := ?_
    oneActive := ?_
    bytes := hpending ▸ h.bytes
    withinEvents := hpending ▸ h.withinEvents
    futures := hids ▸ h.futures
    sent := ?_
    cancelled := ?_
    timers := hids ▸ h.timers
    ended := fun hend => absurd (hend.symm.trans hfailed) nofun }
  · rw [hlength, range_succ, map_append, ← h.numbered]
    simp [handOver, h.next]
  · have hordered := h.ordered
    rw [hqueue] at hordered
    rw [hhanded]
    simpa [handOver] using hordered
  · intro entry hentry
    rcases mem_append.mp hentry with hentry | hentry
    · exact h.envelopes entry hentry
    · rw [mem_singleton.mp hentry]
      exact ⟨rfl, task.event, rfl, (h.tasks task hmem).1⟩
  · intro other hother
    rw [hhanded, getLast?_concat]
    cases hother
    rfl
  · have hcount := h.oneActive.2 hfailed
    rw [hactive] at hcount
    simp only [hlength]
    change _ ≤ s.sentCount + 1 ∧ (_ → _ = s.sentCount + 1)
    simp only [Option.toList_none, length_nil] at hcount
    omega
  · intro c hc hnone
    rw [hhanded]
    exact mem_append_left _ (h.sent c hc hnone)
  · intro c hc hcode hin
    rw [hhanded, mem_append, mem_singleton] at hin
    rcases hin with hin | hin
    · exact h.cancelled c hc hcode hin
    · refine (nodup_append.mp h.nodup).2.2 _ (mem_map_of_mem hc) task.id ?_ hin
      exact mem_map_of_mem hmem

/-- An accepted task comes last in the queue. -/
theorem enqueueReliable_sound {event : ReliableInputEvent} (hfailed : s.reliableFailed = false)
    (hroom : ¬ s.overflows event) (h : QueueSound s) :
    QueueSound (s.enqueueReliable event) := by
  rw [overflows, not_or, not_or, not_lt, not_le, not_lt] at hroom
  have hpending : (s.enqueueReliable event).pendingTasks =
      s.pendingTasks ++ [⟨s.accepted.length, event, s.budgetBytes event⟩] := by
    simp [pendingTasks, enqueueReliable]
  have hids : (s.enqueueReliable event).pendingIds = s.pendingIds ++ [s.accepted.length] := by
    simp [pendingIds, hpending]
  have haccepted : ∀ {k : Nat} {e : ReliableInputEvent}, s.accepted[k]? = some e →
      (s.enqueueReliable event).accepted[k]? = some e := by
    intro k e hk
    exact (List.getElem?_append_left (List.getElem?_eq_some_iff.mp hk).1).trans hk
  refine { h with
    ordered := ?_
    envelopes := ?_
    tasks := ?_
    bytes := ?_
    withinBytes := hroom.2.2
    withinEvents := ?_
    futures := ?_
    timers := ?_
    ended := fun hend => absurd (hend.symm.trans hfailed) nofun }
  · have hnew : (s.enqueueReliable event).handedIds ++
        (s.enqueueReliable event).reliableQueue.map (·.id) =
        (s.handedIds ++ s.reliableQueue.map (·.id)) ++ [s.accepted.length] := by
      simp [enqueueReliable, handedIds]
    rw [hnew, pairwise_append]
    refine ⟨h.ordered, pairwise_singleton _ _, ?_⟩
    intro id hid last hlast
    rw [mem_singleton.mp hlast]
    rcases mem_append.mp hid with hid | hid
    · exact h.handed_lt hid
    · obtain ⟨task, htask, rfl⟩ := mem_map.mp hid
      exact h.pending_lt (mem_append_right _ htask)
  · intro entry hentry
    obtain ⟨hsession, e, he, hevent⟩ := h.envelopes entry hentry
    exact ⟨hsession, e, he, haccepted hevent⟩
  · rw [hpending]
    intro task htask
    rcases mem_append.mp htask with htask | htask
    · exact ⟨haccepted (h.tasks task htask).1, (h.tasks task htask).2⟩
    · rw [mem_singleton.mp htask]
      exact ⟨getElem?_concat_length, rfl⟩
  · rw [hpending]
    simp [enqueueReliable, h.bytes]
  · rw [hpending]
    have hactive : s.activeReliable.toList.length =
        if s.activeReliable.isNone then 0 else 1 := by
      cases s.activeReliable <;> rfl
    have hcount := hroom.2.1
    rw [← hactive] at hcount
    simp only [pendingTasks, length_append, length_singleton]
    omega
  · rw [hids]
    simpa [enqueueReliable, range_succ] using h.futures.append_right [s.accepted.length]
  · rw [hids]
    exact h.timers.append_right _

/-- Cancelling gives every queued task its result. -/
theorem cancelQueuedReliable_sound (h : QueueSound s) : QueueSound s.cancelQueuedReliable := by
  have hparts : (s.completions.map (·.1) ++ s.reliableQueue.map (·.id)).Nodup := by
    refine h.nodup.sublist (Sublist.append_left ?_ _)
    simp [pendingIds, pendingTasks]
  have hcompletions : s.cancelQueuedReliable.completions =
      s.completions ++ s.reliableQueue.map fun task => (task.id, some .cancelled) :=
    foldl_completeError .cancelled hparts
  have hpending : s.cancelQueuedReliable.pendingTasks = s.activeReliable.toList := by
    simp [pendingTasks, cancelQueuedReliable, failReliableTasks]
  have hbytes : s.cancelQueuedReliable.pendingReliableBytes =
      ((s.activeReliable.toList.map (·.budgetBytes)).sum : Nat) := by
    have hsum := h.bytes
    simp only [pendingTasks, map_append, sum_append] at hsum
    simp only [cancelQueuedReliable, hsum]
    omega
  have hactive : ∀ task ∈ s.activeReliable.toList, task ∈ s.pendingTasks :=
    fun task htask => mem_append_left _ htask
  refine { h with
    ordered := ?_
    tasks := fun task htask => h.tasks task (hactive task (hpending ▸ htask))
    oneActive := ?_
    bytes := by rw [hbytes, hpending]
    withinBytes := ?_
    withinEvents := ?_
    futures := ?_
    sent := ?_
    cancelled := ?_
    timers := ?_
    ended := ?_ }
  · have hordered := (pairwise_append.mp h.ordered).1
    simpa [cancelQueuedReliable, failReliableTasks, handedIds] using hordered
  · have hcount : s.cancelQueuedReliable.sentCount = s.sentCount := by
      simp [sentCount, hcompletions, countP_append, countP_map, Function.comp_def]
    rw [hcount]
    exact h.oneActive
  · have hle := h.withinBytes
    rw [h.bytes] at hle
    simp only [pendingTasks, map_append, sum_append] at hle
    rw [hbytes]
    omega
  · have hle := h.withinEvents
    rw [hpending]
    simp only [pendingTasks, length_append] at hle
    omega
  · have hids : s.cancelQueuedReliable.pendingIds = s.activeReliable.toList.map (·.id) := by
      rw [pendingIds, hpending]
    have hfutures := h.futures
    simp only [pendingIds, pendingTasks, map_append] at hfutures
    rw [hcompletions, map_append, hids, append_assoc]
    refine Perm.trans ?_ hfutures
    refine Perm.append_left _ (perm_append_comm.trans ?_)
    simp [Function.comp_def]
  · rw [hcompletions]
    intro c hc hnone
    rcases mem_append.mp hc with hc | hc
    · exact h.sent c hc hnone
    · obtain ⟨task, _, rfl⟩ := mem_map.mp hc
      cases hnone
  · rw [hcompletions]
    intro c hc hcode hin
    rcases mem_append.mp hc with hc | hc
    · exact h.cancelled c hc hcode hin
    · obtain ⟨task, htask, rfl⟩ := mem_map.mp hc
      refine absurd ?_ (Nat.lt_irrefl task.id)
      exact (pairwise_append.mp h.ordered).2.2 _ hin _ (mem_map_of_mem htask)
  · have hdisjoint := (nodup_append.mp h.nodup).2.1
    simp only [pendingIds, pendingTasks, map_append, nodup_append] at hdisjoint
    rw [pendingIds, hpending]
    refine (h.timers.filter _).trans ?_
    simp only [pendingIds, pendingTasks, map_append, filter_append]
    rw [filter_eq_self.mpr, filter_eq_nil_iff.mpr, append_nil]
    · intro id hid
      simpa using hid
    · intro id hid
      simpa using fun task htask hsame => hdisjoint.2.2 id hid _ (mem_map_of_mem htask) hsame.symm
  · intro hfailed
    obtain ⟨hempty, hsuspended, hmove, _⟩ := h.ended hfailed
    exact ⟨hpending.trans (append_eq_nil_iff.mp hempty).1, hsuspended, hmove, rfl⟩

/-- The active task has been sent. -/
theorem settled_sound (hactive : s.activeReliable = some task) (h : QueueSound s) :
    QueueSound { s with
      activeReliable := none
      pendingReliableBytes := s.pendingReliableBytes - task.budgetBytes
      timers := s.timers.erase task.id
      completions := s.completions ++ [(task.id, none)] } := by
  have hpending : s.pendingTasks = task :: s.reliableQueue := by
    simp [pendingTasks, hactive]
  have hids : s.pendingIds = task.id :: s.reliableQueue.map (·.id) := by
    simp [pendingIds, hpending]
  have hrunning : s.reliableFailed = false := by
    refine Bool.eq_false_iff.mpr fun hfailed => ?_
    exact absurd (hpending.symm.trans (h.ended hfailed).1) nofun
  have hlast : task.id ∈ s.handedIds := mem_of_getLast? (h.active task hactive)
  have hnodup := h.nodup
  rw [hids, nodup_append, nodup_cons] at hnodup
  refine { h with
    tasks := fun other hother => h.tasks other (by
      rw [hpending]
      exact mem_cons_of_mem _ hother)
    active := nofun
    oneActive := ?_
    bytes := ?_
    withinBytes := ?_
    withinEvents := ?_
    futures := ?_
    sent := ?_
    cancelled := ?_
    timers := ?_
    ended := fun hfailed => absurd (hfailed.symm.trans hrunning) nofun }
  · have hcount := h.oneActive.2 hrunning
    rw [hactive] at hcount
    have hone : (s.completions ++ [(task.id, (none : Option InputSenderErrorCode))]).countP
        (fun c => c.2.isNone) = s.sentCount + 1 := by
      simp [sentCount, countP_append]
    simp only [sentCount, hone] at hcount ⊢
    simp only [Option.toList_some, Option.toList_none, length_singleton, length_nil] at hcount ⊢
    omega
  · have hsum := h.bytes
    rw [hpending] at hsum
    simp only [map_cons, sum_cons] at hsum
    simp only [pendingTasks, Option.toList_none, nil_append]
    omega
  · have hle := h.withinBytes
    simp only
    omega
  · have hle := h.withinEvents
    rw [hpending] at hle
    simp only [pendingTasks, Option.toList_none, nil_append]
    simp only [length_cons] at hle
    omega
  · have hfutures := h.futures
    rw [hids] at hfutures
    simpa [pendingIds, pendingTasks] using hfutures
  · intro c hc hnone
    rcases mem_append.mp hc with hc | hc
    · exact h.sent c hc hnone
    · rw [mem_singleton.mp hc]
      exact hlast
  · intro c hc hcode
    rcases mem_append.mp hc with hc | hc
    · exact h.cancelled c hc hcode
    · rw [mem_singleton.mp hc] at hcode
      cases hcode
  · have htimers := h.timers.erase task.id
    rw [hids, erase_cons_head] at htimers
    simpa [pendingIds, pendingTasks] using htimers

/-- The timer that has fired makes no difference to the end of the sender. -/
theorem abort_erase_timer (h : QueueSound s) {id : Nat} (hid : id ∈ s.timers) :
    abort { s with timers := s.timers.erase id } = s.abort := by
  have hnone : ∀ timers : List Nat, timers ⊆ s.timers →
      timers.filter (fun id => id ∉ s.pendingTasks.map (·.id)) = [] := by
    refine fun timers hsub => filter_eq_nil_iff.mpr fun id hid => ?_
    simpa [pendingIds] using h.timers.mem_iff.mp (hsub hid)
  have hrunning : s.reliableFailed = false := by
    refine Bool.eq_false_iff.mpr fun hfailed => ?_
    have hin := h.timers.mem_iff.mp hid
    simp [pendingIds, (h.ended hfailed).1] at hin
  have hstopped : ¬ s.reliableFailed = true := by simp [hrunning]
  have herased : abort { s with timers := s.timers.erase id } = { s.abort with
      timers := (s.timers.erase id).filter fun id => id ∉ s.pendingTasks.map (·.id) } := by
    unfold abort
    rw [if_neg hstopped, if_neg hstopped]
    rfl
  have hempty : s.abort.timers = [] := by
    unfold abort
    rw [if_neg hstopped]
    exact hnone _ (Subset.refl _)
  rw [herased, hnone _ erase_subset, ← hempty]

/-- Going on keeps the queue in shape. -/
theorem pumped_sound {s' : RemoteInputSender} (hpumped : Pumped s s') (h : QueueSound s) :
    QueueSound s' :=
  hpumped.keeps h (fun _ h => h.withReading true)
    (fun _ hfailed h => h.pauseReliable_sound hfailed) (fun _ h => h.abort_sound)
    fun _ _ _ hqueue hactive hfailed h => h.handOver_sound hqueue hactive hfailed

/-- So does a dispatch. -/
theorem dispatchReliable_sound (h : QueueSound s) (channels : InputDataChannels)
    (bufferedAmount : Int) : QueueSound (s.dispatchReliable channels bufferedAmount) :=
  pumped_sound (dispatchReliable_pumped channels bufferedAmount s) h

/-- So does a pump that may read the buffered amount. -/
theorem pumpReliable_sound (h : QueueSound s) (channels : InputDataChannels) :
    QueueSound (s.pumpReliable channels) :=
  pumped_sound (pumpReliable_pumped channels s) h

/-- An event is refused, or accepted and pumped. -/
theorem sendReliable_sound (h : QueueSound s) (channels : InputDataChannels)
    (event : ReliableInputEvent) : QueueSound (s.sendReliable channels event).1 := by
  unfold sendReliable
  split_ifs with hfailed hfull
  · exact h
  · exact h.abort_sound
  · rw [Bool.not_eq_true] at hfailed
    exact (h.enqueueReliable_sound hfailed hfull).pumpReliable_sound channels

/-! ### The operations -/

theorem dropPendingMove_sound (h : QueueSound s) : QueueSound s.dropPendingMove :=
  { h with ended := fun hf => ⟨(h.ended hf).1, (h.ended hf).2.1, rfl, (h.ended hf).2.2.2⟩ }

/-- The fast channel is not part of the queue. -/
theorem schedulePendingPointerMove_sound (h : QueueSound s) :
    QueueSound s.schedulePendingPointerMove := by
  unfold schedulePendingPointerMove
  split_ifs
  · exact h
  · exact { h with numbered := h.numbered }

/-- A fast event leaves the queue in shape. -/
theorem sendFastBestEffort_sound (h : QueueSound s) (channels : InputDataChannels)
    (event : PointerFastEvent) : QueueSound (s.sendFastBestEffort channels event).1 := by
  unfold sendFastBestEffort
  split_ifs
  · exact h
  · split
    · exact h
    · split_ifs
      · exact h
      · exact { h with numbered := h.numbered }

/-- So does flushing a move. -/
theorem flushPointerMove_sound (h : QueueSound s) (channels : InputDataChannels) :
    QueueSound (s.flushPointerMove channels) := by
  unfold flushPointerMove
  split
  · exact h.dropPendingMove_sound
  · split_ifs
    · exact h.dropPendingMove_sound
    · exact { h with numbered := h.numbered }
    · split
      · exact h.dropPendingMove_sound
      · split_ifs
        · exact { h.dropPendingMove_sound with numbered := h.numbered }
        · exact h.dropPendingMove_sound.sendFastBestEffort_sound channels _

/-- So does the answer of the fast channel. -/
theorem fastCompleted_sound (h : QueueSound s) (sent : Bool) :
    QueueSound (s.fastCompleted sent) := by
  unfold fastCompleted
  split
  · exact h
  · have hended : QueueSound { s with
        fastSendInFlight := none, fastOutcomes := s.fastOutcomes ++ [sent] } :=
      { h with numbered := h.numbered }
    have hscheduled := hended.schedulePendingPointerMove_sound
    dsimp only
    split
    · split_ifs
      · exact hscheduled
      · exact { hscheduled with numbered := hscheduled.numbered }
    · exact hscheduled

/-- Input keeps the queue in shape. -/
theorem entered_sound {action : SenderAction} {result : RemoteInputSender × SenderFuture}
    (h : QueueSound s) (hentered : Entered channels action s result) : QueueSound result.1 := by
  have hcleared := h.withReleaseSent false
  cases hentered with
  | refused => exact h
  | invalid => exact hcleared
  | reliable hopen event => exact hcleared.sendReliable_sound channels event
  | fast hopen event => exact hcleared.sendFastBestEffort_sound channels event
  | waiting hopen move =>
    refine schedulePendingPointerMove_sound { hcleared with ended := fun hfailed => ?_ }
    exact absurd (hfailed.symm.trans (ensureOpen_eq_ok.mp hopen).2.1) Bool.true_eq_false.mp

/-- A release cancels the queue and is sent. -/
theorem releaseAll_sound (h : QueueSound s) (channels : InputDataChannels) :
    QueueSound (s.releaseAll channels).1 := by
  unfold releaseAll
  split_ifs
  · exact h
  · have hcancelled := h.dropPendingMove_sound.cancelQueuedReliable_sound
    exact (hcancelled.withReleaseSent true).sendReliable_sound channels _

/-- So does suspending. -/
theorem suspend_sound (h : QueueSound s) (channels : InputDataChannels) :
    QueueSound (s.suspend channels).1 := by
  unfold suspend
  split_ifs
  · exact h
  · have hsuspended : QueueSound { s.dropPendingMove with suspended := true } :=
      { h with ended := fun hf => ⟨(h.ended hf).1, rfl, rfl, (h.ended hf).2.2.2⟩ }
    exact hsuspended.releaseAll_sound channels

/-- Resuming only lifts the suspension. -/
theorem resume_sound (h : QueueSound s) : QueueSound s.resume.1 := by
  unfold resume
  split_ifs with hstop
  · exact h
  · exact { h with ended := fun hf => absurd (.inr hf) hstop }

/-- Waiting for the close changes nothing else. -/
theorem awaitClose_sound (progress : Nat → CloseProgress)
    {result : RemoteInputSender × SenderFuture} (h : QueueSound result.1) :
    QueueSound (awaitClose progress result) := by
  unfold awaitClose
  split <;> exact { h with numbered := h.numbered }

/-- The close message is sent like any event. -/
theorem sendClose_sound (h : QueueSound s) (channels : InputDataChannels) :
    QueueSound (s.sendClose channels) :=
  awaitClose_sound _ (h.sendReliable_sound channels _)

/-- Closing releases and waits. -/
theorem close_sound (h : QueueSound s) (channels : InputDataChannels) :
    QueueSound (s.close channels).1 := by
  unfold close
  by_cases hclosed : s.closed = true
  · rw [if_pos hclosed]
    exact h
  · rw [if_neg hclosed]
    have hmarked : QueueSound { s with closed := true } := { h with numbered := h.numbered }
    have hdropped := hmarked.cancelQueuedReliable_sound.dropPendingMove_sound
    dsimp only
    split_ifs
    · exact { hdropped with numbered := hdropped.numbered }
    · exact hdropped.sendClose_sound channels
    · exact awaitClose_sound _ ((hdropped.withReleaseSent true).sendReliable_sound channels _)

/-- The close goes on when its event has its result. -/
theorem continueClose_sound (h : QueueSound s) (channels : InputDataChannels) :
    QueueSound (s.continueClose channels) := by
  unfold continueClose
  split
  · split
    · exact h
    · exact h.sendClose_sound channels
    · exact { h with numbered := h.numbered }
  · split
    · exact h
    · exact { h with numbered := h.numbered }
  · exact h

/-- The answer of the channel completes the active task, and the queue is pumped. -/
theorem sendCompleted_sound (h : QueueSound s) (channels : InputDataChannels) (id : Nat) :
    QueueSound (s.sendCompleted channels id) := by
  unfold sendCompleted
  split
  · exact h
  · rename_i hactive
    split_ifs
    · exact h
    · exact (h.settled_sound hactive).pumpReliable_sound channels

/-- The retry timer pumps. -/
theorem retry_sound (h : QueueSound s) (channels : InputDataChannels) :
    QueueSound (s.retry channels) := by
  unfold retry
  split_ifs
  · have hfired : QueueSound { s with reliableRetryTimer := false } :=
      { h with ended := fun hf => ⟨(h.ended hf).1, (h.ended hf).2.1, (h.ended hf).2.2.1, rfl⟩ }
    exact hfired.pumpReliable_sound channels
  · exact h

/-- The buffered amount leads to a dispatch, a pause or an abort. -/
theorem bufferedAmountRead_sound (h : QueueSound s) (channels : InputDataChannels)
    (result : Option Int) : QueueSound (s.bufferedAmountRead channels result) := by
  unfold bufferedAmountRead
  split_ifs
  · split
    · exact (h.withReading false).dispatchReliable_sound channels _
    · exact (h.withReading false).abort_sound
  · exact h

/-- A timeout aborts. -/
theorem timeout_sound (h : QueueSound s) (id : Nat) : QueueSound (s.timeout id) := by
  unfold timeout
  split_ifs with hid
  · rw [h.abort_erase_timer hid]
    exact h.abort_sound
  · exact h

/-- Every action keeps the queue in shape. -/
theorem perform_sound (h : QueueSound s) (channels : InputDataChannels) (action : SenderAction) :
    QueueSound (action.perform channels s).1 := by
  cases action with
  | pointerButton | pointerClick | keyboard | text | scroll | pointerMove =>
    exact h.entered_sound channels (perform_entered channels (by rfl) s)
  | releaseAll => exact h.releaseAll_sound channels
  | suspend => exact h.suspend_sound channels
  | resume => exact h.resume_sound
  | close => exact h.close_sound channels
  | continueClose => exact h.continueClose_sound channels
  | sendCompleted id => exact h.sendCompleted_sound channels id
  | abort => exact h.abort_sound
  | retry => exact h.retry_sound channels
  | bufferedAmountRead result => exact h.bufferedAmountRead_sound channels result
  | timeout id => exact h.timeout_sound id
  | frame => exact h.flushPointerMove_sound channels
  | fastCompleted sent => exact h.fastCompleted_sound sent

end QueueSound

/-! ## What a step leaves as it is -/

/-- What the sender records of what has happened, with the flags that end it. -/
def record (s : RemoteInputSender) :=
  (s.accepted, s.completions, s.handedReliable, s.handedFast, s.fastOutcomes, s.reliableFailed,
    s.suspended)

/-- What has happened stays as it is: events that were queued, futures that have
completed, envelopes that were handed over.  A sender that has ended hands nothing over. -/
structure Frame (s s' : RemoteInputSender) : Prop where
  accepted : s.accepted <+: s'.accepted
  completions : s.completions <+: s'.completions
  handedReliable : s.handedReliable <+: s'.handedReliable
  handedFast : s.handedFast <+: s'.handedFast
  fastOutcomes : s.fastOutcomes <+: s'.fastOutcomes
  ended : s.reliableFailed = true → s.suspended = true →
    s'.reliableFailed = true ∧ s'.suspended = true ∧ s'.handedReliable = s.handedReliable ∧
      s'.handedFast = s.handedFast

/-- Closing has not gone on. -/
def SameClose (s s' : RemoteInputSender) : Prop :=
  s'.closed = s.closed ∧ s'.closeFuture = s.closeFuture

namespace Frame

variable {s s' s'' : RemoteInputSender}

/-- A step that leaves the record leaves everything that grows. -/
theorem of_eq (h : s'.record = s.record) : Frame s s' := by
  simp only [record, Prod.mk.injEq] at h
  obtain ⟨haccepted, hcompletions, hhanded, hfast, houtcomes, hfailed, hsuspended⟩ := h
  exact {
    accepted := haccepted ▸ prefix_rfl
    completions := hcompletions ▸ prefix_rfl
    handedReliable := hhanded ▸ prefix_rfl
    handedFast := hfast ▸ prefix_rfl
    fastOutcomes := houtcomes ▸ prefix_rfl
    ended := fun hf hs => ⟨hfailed.trans hf, hsuspended.trans hs, hhanded, hfast⟩ }

/-- Doing nothing takes nothing back. -/
theorem refl (s : RemoteInputSender) : Frame s s := .of_eq rfl

/-- Nothing is taken back over two steps. -/
theorem trans (h : Frame s s') (h' : Frame s' s'') : Frame s s'' where
  accepted := h.accepted.trans h'.accepted
  completions := h.completions.trans h'.completions
  handedReliable := h.handedReliable.trans h'.handedReliable
  handedFast := h.handedFast.trans h'.handedFast
  fastOutcomes := h.fastOutcomes.trans h'.fastOutcomes
  ended := fun hf hs => by
    obtain ⟨hf', hs', hhanded, hfast⟩ := h.ended hf hs
    obtain ⟨hf'', hs'', hhanded', hfast'⟩ := h'.ended hf' hs'
    exact ⟨hf'', hs'', hhanded'.trans hhanded, hfast'.trans hfast⟩

end Frame

variable (code : InputSenderErrorCode) (tasks : List ReliableInputTask)

/-- Results are only added. -/
theorem foldl_completeError_extends (completions : List (Nat × Option InputSenderErrorCode)) :
    completions <+: tasks.foldl (completeError code) completions := by
  induction tasks generalizing completions with
  | nil => exact prefix_rfl
  | cons task tasks ih =>
    refine IsPrefix.trans ?_ (ih _)
    unfold completeError
    split_ifs
    · exact prefix_rfl
    · exact prefix_append _ _

/-- Failing tasks adds their results. -/
theorem failReliableTasks_frame
    (s : RemoteInputSender) : Frame s (failReliableTasks code tasks s) where
  accepted := prefix_rfl
  completions := foldl_completeError_extends code tasks s.completions
  handedReliable := prefix_rfl
  handedFast := prefix_rfl
  fastOutcomes := prefix_rfl
  ended := fun hf hs => ⟨hf, hs, rfl, rfl⟩

/-- An abort takes nothing back. -/
theorem abort_frame (s : RemoteInputSender) : Frame s s.abort := by
  unfold abort
  split_ifs
  · exact .refl s
  · exact { failReliableTasks_frame .channel s.pendingTasks s with
      ended := fun _ _ => ⟨rfl, rfl, rfl, rfl⟩ }

/-- An abort does not go on with closing. -/
theorem abort_sameClose (s : RemoteInputSender) : SameClose s s.abort := by
  unfold abort
  split_ifs <;> exact ⟨rfl, rfl⟩

/-- Going on takes nothing back and does not go on with closing. -/
theorem pumped_frame {s s' : RemoteInputSender} (h : Pumped s s') :
    Frame s s' ∧ SameClose s s' := by
  have hhanded : ∀ task queue, s.reliableFailed = false → Frame s (s.handOver task queue) :=
    fun task queue hfailed => { Frame.refl s with
      handedReliable := prefix_append _ _
      ended := fun hf => absurd (hf.symm.trans hfailed) nofun }
  cases h with
  | rest => exact ⟨.refl s, rfl, rfl⟩
  | reading => exact ⟨.of_eq rfl, rfl, rfl⟩
  | paused => exact ⟨.of_eq rfl, rfl, rfl⟩
  | aborted => exact ⟨abort_frame s, abort_sameClose s⟩
  | handed _ _ hfailed => exact ⟨hhanded _ _ hfailed, rfl, rfl⟩
  | refused _ _ hfailed =>
    exact ⟨(hhanded _ _ hfailed).trans (abort_frame _), abort_sameClose (s.handOver _ _)⟩

/-- Nor does sending an event. -/
theorem sendReliable_frame (event : ReliableInputEvent) (s : RemoteInputSender) :
    Frame s (s.sendReliable channels event).1 ∧ SameClose s (s.sendReliable channels event).1 := by
  unfold sendReliable
  split_ifs
  · exact ⟨.refl s, rfl, rfl⟩
  · exact ⟨abort_frame s, abort_sameClose s⟩
  · have hqueued : Frame s (s.enqueueReliable event) := { Frame.refl s with
      accepted := prefix_append _ _ }
    have hpumped := pumped_frame (pumpReliable_pumped channels (s.enqueueReliable event))
    exact ⟨hqueued.trans hpumped.1, hpumped.2⟩

/-- A step that leaves what has happened and closing as they are. -/
def Quiet (s s' : RemoteInputSender) : Prop := Frame s s' ∧ SameClose s s'

namespace Quiet

variable {s s' s'' : RemoteInputSender}

/-- Doing nothing is quiet. -/
theorem refl (s : RemoteInputSender) : Quiet s s := ⟨.refl s, rfl, rfl⟩

/-- Two quiet steps are quiet. -/
theorem trans (h : Quiet s s') (h' : Quiet s' s'') : Quiet s s'' :=
  ⟨h.1.trans h'.1, h'.2.1.trans h.2.1, h'.2.2.trans h.2.2⟩

end Quiet

/-- An abort is quiet. -/
theorem abort_quiet (s : RemoteInputSender) : Quiet s s.abort := ⟨abort_frame s, abort_sameClose s⟩

/-- Dropping a move is quiet. -/
theorem dropPendingMove_quiet (s : RemoteInputSender) : Quiet s s.dropPendingMove :=
  ⟨.of_eq rfl, rfl, rfl⟩

/-- Cancelling the queue is quiet. -/
theorem cancelQueuedReliable_quiet (s : RemoteInputSender) : Quiet s s.cancelQueuedReliable := by
  refine ⟨{ failReliableTasks_frame .cancelled s.reliableQueue s with ended := ?_ }, rfl, rfl⟩
  exact fun hf hs => ⟨hf, hs, rfl, rfl⟩

/-- Scheduling a move is quiet. -/
theorem schedulePendingPointerMove_quiet (s : RemoteInputSender) :
    Quiet s s.schedulePendingPointerMove := by
  unfold schedulePendingPointerMove
  split_ifs
  · exact .refl s
  · exact ⟨.of_eq rfl, rfl, rfl⟩

variable (action : SenderAction) (event : PointerFastEvent)

/-- A fast event is sent only by a sender that runs. -/
theorem sendFast_quiet {s : RemoteInputSender}
    (hopen : s.reliableFailed = true → s.suspended = true → False) :
    Quiet s (s.sendFast event) := by
  refine ⟨{ Frame.refl s with
    handedFast := ?_
    ended := fun hf hs => (hopen hf hs).elim }, rfl, rfl⟩
  unfold sendFast
  dsimp only
  split_ifs
  · exact prefix_rfl
  · exact prefix_append _ _

/-- So is one that may be dropped. -/
theorem sendFastBestEffort_quiet {s : RemoteInputSender}
    (hopen : s.reliableFailed = true → s.suspended = true → False) :
    Quiet s (s.sendFastBestEffort channels event).1 := by
  unfold sendFastBestEffort
  split_ifs
  · exact .refl s
  · split
    · exact .refl s
    · split_ifs
      · exact .refl s
      · exact sendFast_quiet event hopen

/-- Flushing a move is quiet. -/
theorem flushPointerMove_quiet (s : RemoteInputSender) :
    Quiet s (s.flushPointerMove channels) := by
  have hdropped := dropPendingMove_quiet s
  unfold flushPointerMove
  split
  · exact hdropped
  · by_cases hstop : s.closed = true ∨ s.suspended = true
    · rw [if_pos hstop]
      exact hdropped
    rw [if_neg hstop]
    split_ifs
    · exact ⟨.of_eq rfl, rfl, rfl⟩
    · split
      · exact hdropped
      · split_ifs
        · exact ⟨.of_eq rfl, rfl, rfl⟩
        · refine hdropped.trans (sendFastBestEffort_quiet channels _ ?_)
          exact fun _ hsuspended => hstop (.inr hsuspended)

/-- So is the answer of the fast channel. -/
theorem fastCompleted_quiet (sent : Bool) (s : RemoteInputSender) :
    Quiet s (s.fastCompleted sent) := by
  unfold fastCompleted
  split
  · exact .refl s
  · have hended : Quiet s { s with
        fastSendInFlight := none, fastOutcomes := s.fastOutcomes ++ [sent] } :=
      ⟨{ Frame.refl s with fastOutcomes := prefix_append _ _ }, rfl, rfl⟩
    have hscheduled := hended.trans (schedulePendingPointerMove_quiet _)
    dsimp only
    split
    · split_ifs
      · exact hscheduled
      · exact hscheduled.trans ⟨.of_eq rfl, rfl, rfl⟩
    · exact hscheduled

variable (progress : Nat → CloseProgress) (button : PointerButton)

/-- So is input. -/
theorem Entered.quiet {channels : InputDataChannels} {action : SenderAction}
    {s : RemoteInputSender} {result : RemoteInputSender × SenderFuture}
    (h : Entered channels action s result) : Quiet s result.1 := by
  have hcleared : Quiet s s.clearRelease := ⟨.of_eq rfl, rfl, rfl⟩
  cases h with
  | refused => exact .refl s
  | invalid => exact hcleared
  | reliable hopen event => exact hcleared.trans (sendReliable_frame channels event _)
  | fast hopen event =>
    refine hcleared.trans (sendFastBestEffort_quiet channels event fun hfailed _ => ?_)
    exact absurd hfailed (Bool.eq_false_iff.mp (ensureOpen_eq_ok.mp hopen).2.1)
  | waiting hopen move =>
    refine Quiet.trans ?_ (schedulePendingPointerMove_quiet _)
    exact ⟨.of_eq rfl, rfl, rfl⟩

/-- So is a release. -/
theorem releaseAll_quiet (s : RemoteInputSender) : Quiet s (s.releaseAll channels).1 := by
  unfold releaseAll
  split_ifs
  · exact .refl s
  · have hcancelled := (dropPendingMove_quiet s).trans (cancelQueuedReliable_quiet _)
    refine Quiet.trans ?_ (sendReliable_frame channels .releaseAllInput _)
    exact hcancelled.trans ⟨.of_eq rfl, rfl, rfl⟩

/-- So is suspending. -/
theorem suspend_quiet (s : RemoteInputSender) : Quiet s (s.suspend channels).1 := by
  unfold suspend
  split_ifs
  · exact .refl s
  · refine Quiet.trans ?_ (releaseAll_quiet channels _)
    exact ⟨{ Frame.refl s with ended := fun hf _ => ⟨hf, rfl, rfl, rfl⟩ }, rfl, rfl⟩

/-- So is resuming. -/
theorem resume_quiet (s : RemoteInputSender) : Quiet s s.resume.1 := by
  unfold resume
  split_ifs with hstop
  · exact .refl s
  · refine ⟨{ Frame.refl s with ended := ?_ }, rfl, rfl⟩
    exact fun hfailed => absurd (.inr hfailed) hstop

/-- So is the answer of the reliable channel. -/
theorem sendCompleted_quiet (id : Nat) (s : RemoteInputSender) :
    Quiet s (s.sendCompleted channels id) := by
  unfold sendCompleted
  split
  · exact .refl s
  · rename_i task _
    split_ifs
    · exact .refl s
    · have hsettled : Quiet s { s with
          activeReliable := none
          pendingReliableBytes := s.pendingReliableBytes - task.budgetBytes
          timers := s.timers.erase task.id
          completions := s.completions ++ [(task.id, none)] } :=
        ⟨{ Frame.refl s with completions := prefix_append _ _ }, rfl, rfl⟩
      exact hsettled.trans (pumped_frame (pumpReliable_pumped channels _))

/-- So is the retry timer. -/
theorem retry_quiet (s : RemoteInputSender) : Quiet s (s.retry channels) := by
  unfold retry
  split_ifs
  · refine Quiet.trans ?_ (pumped_frame (pumpReliable_pumped channels _))
    exact ⟨.of_eq rfl, rfl, rfl⟩
  · exact .refl s

/-- So is the buffered amount. -/
theorem bufferedAmountRead_quiet (result : Option Int) (s : RemoteInputSender) :
    Quiet s (s.bufferedAmountRead channels result) := by
  unfold bufferedAmountRead
  split_ifs
  · split
    · refine Quiet.trans ?_ (pumped_frame (dispatchReliable_pumped channels _ _))
      exact ⟨.of_eq rfl, rfl, rfl⟩
    · refine Quiet.trans ?_ (abort_quiet _)
      exact ⟨.of_eq rfl, rfl, rfl⟩
  · exact .refl s

/-- So is a timeout. -/
theorem timeout_quiet (id : Nat) (s : RemoteInputSender) : Quiet s (s.timeout id) := by
  unfold timeout
  split_ifs
  · refine Quiet.trans ?_ (abort_quiet _)
    exact ⟨.of_eq rfl, rfl, rfl⟩
  · exact .refl s

/-- Every action but those of closing leaves closing as it is. -/
theorem perform_quiet (hclose : action ≠ .close)
    (hcontinue : action ≠ .continueClose) (s : RemoteInputSender) :
    Quiet s (action.perform channels s).1 := by
  cases action with
  | pointerButton | pointerClick | keyboard | text | scroll | pointerMove =>
    exact (perform_entered channels (by rfl) s).quiet
  | releaseAll => exact releaseAll_quiet channels s
  | suspend => exact suspend_quiet channels s
  | resume => exact resume_quiet s
  | close => exact absurd rfl hclose
  | continueClose => exact absurd rfl hcontinue
  | sendCompleted id => exact sendCompleted_quiet channels id s
  | abort => exact abort_quiet s
  | retry => exact retry_quiet channels s
  | bufferedAmountRead result => exact bufferedAmountRead_quiet channels result s
  | timeout id => exact timeout_quiet id s
  | frame => exact flushPointerMove_quiet channels s
  | fastCompleted sent => exact fastCompleted_quiet sent s

/-! ## Closing -/

theorem awaitClose_frame (result : RemoteInputSender × SenderFuture) :
    Frame result.1 (awaitClose progress result) ∧
      (awaitClose progress result).closed = result.1.closed := by
  unfold awaitClose
  split <;> exact ⟨.of_eq rfl, rfl⟩

/-- Queuing an event and waiting for it: what closing awaits then is the new task. -/
theorem awaitClose_sendReliable (event : ReliableInputEvent) (s : RemoteInputSender) :
    (awaitClose progress (s.sendReliable channels event)).closeFuture =
        .finished (some .channel) ∨
      (awaitClose progress (s.sendReliable channels event)).closeFuture =
          progress s.accepted.length ∧
        s.accepted.length <
          (awaitClose progress (s.sendReliable channels event)).accepted.length := by
  unfold sendReliable
  split_ifs
  · exact .inl rfl
  · exact .inl rfl
  · refine .inr ⟨rfl, ?_⟩
    have hpumped := pumped_frame (pumpReliable_pumped channels (s.enqueueReliable event))
    have hlength := hpumped.1.accepted.length_le
    simp only [enqueueReliable, length_append, length_singleton] at hlength
    exact hlength

/-- The close message takes nothing back. -/
theorem sendClose_frame (s : RemoteInputSender) :
    Frame s (s.sendClose channels) ∧ (s.sendClose channels).closed = s.closed := by
  have hsent := sendReliable_frame channels closeEvent s
  have hawaited := awaitClose_frame .controlling (s.sendReliable channels closeEvent)
  exact ⟨hsent.1.trans hawaited.1, hawaited.2.trans hsent.2.1⟩

/-- Closing takes nothing back. -/
theorem close_frame (s : RemoteInputSender) : Frame s (s.close channels).1 := by
  unfold close
  split_ifs
  · exact .refl s
  · have hmarked : Frame s { s with closed := true } := .of_eq rfl
    have hcancelled := hmarked.trans (cancelQueuedReliable_quiet _).1
    have hdropped := hcancelled.trans (dropPendingMove_quiet _).1
    dsimp only
    split_ifs
    · exact hdropped.trans (.of_eq rfl)
    · exact hdropped.trans (sendClose_frame channels _).1
    · refine Frame.trans ?_ (awaitClose_frame .releasing _).1
      refine Frame.trans ?_ (sendReliable_frame channels .releaseAllInput _).1
      exact hdropped.trans (.of_eq rfl)

/-- Nor does the close when it goes on. -/
theorem continueClose_frame (s : RemoteInputSender) :
    Frame s (s.continueClose channels) ∧ (s.continueClose channels).closed = s.closed := by
  unfold continueClose
  split
  · split
    · exact ⟨.refl s, rfl⟩
    · exact sendClose_frame channels s
    · exact ⟨.of_eq rfl, rfl⟩
  · split
    · exact ⟨.refl s, rfl⟩
    · exact ⟨.of_eq rfl, rfl⟩
  · exact ⟨.refl s, rfl⟩

/-- What has happened stays as it is, whatever the action. -/
theorem perform_frame (s : RemoteInputSender) :
    Frame s (action.perform channels s).1 := by
  by_cases hclose : action = .close
  · rw [hclose]
    exact close_frame channels s
  by_cases hcontinue : action = .continueClose
  · rw [hcontinue]
    exact (continueClose_frame channels s).1
  · exact (perform_quiet channels action hclose hcontinue s).1

/-- A sender that is closed awaits a task of its own, or has finished closing. -/
theorem closeSound_of {s : RemoteInputSender} (hclosed : s.closed = true) (id : Nat)
    (h : (∃ error, s.closeFuture = .finished error) ∨
      (s.closeFuture = .releasing id ∨ s.closeFuture = .controlling id) ∧
        id < s.accepted.length) : CloseSound s := by
  rcases h with ⟨error, herror⟩ | ⟨hawaited | hawaited, hlt⟩
  · exact { called := by simp [hclosed, herror], awaited := by simp [herror] }
  · refine { called := by simp [hclosed, hawaited], awaited := ?_ }
    simpa [hawaited] using hlt
  · refine { called := by simp [hclosed, hawaited], awaited := ?_ }
    simpa [hawaited] using hlt

/-- After the close message the close waits for its result. -/
theorem sendClose_closeSound {s : RemoteInputSender} (hclosed : s.closed = true) :
    CloseSound (s.sendClose channels) := by
  refine closeSound_of ((sendClose_frame channels s).2.trans hclosed) s.accepted.length ?_
  rcases awaitClose_sendReliable channels .controlling closeEvent s with h | h
  · exact .inl ⟨_, h⟩
  · exact .inr ⟨.inr h.1, h.2⟩

/-- Closing again waits for the close that is under way. -/
theorem close_closeSound {s : RemoteInputSender} (h : CloseSound s) :
    CloseSound (s.close channels).1 := by
  unfold close
  split_ifs
  · exact h
  · dsimp only
    split_ifs
    · exact closeSound_of rfl 0 (.inl ⟨none, rfl⟩)
    · exact sendClose_closeSound channels rfl
    · have hreleased := awaitClose_sendReliable channels .releasing .releaseAllInput
        { { s with closed := true }.cancelQueuedReliable.dropPendingMove with releaseSent := true }
      refine closeSound_of ((awaitClose_frame .releasing _).2.trans
        (sendReliable_frame channels .releaseAllInput _).2.1) s.accepted.length ?_
      rcases hreleased with h | h
      · exact .inl ⟨_, h⟩
      · exact .inr ⟨.inl h.1, h.2⟩

/-- The close goes on from where it waited. -/
theorem continueClose_closeSound {s : RemoteInputSender} (h : CloseSound s) :
    CloseSound (s.continueClose channels) := by
  unfold continueClose
  split
  · rename_i id hprogress
    have hclosed : s.closed = true := h.called.mpr (by simp [hprogress])
    split
    · exact h
    · exact sendClose_closeSound channels hclosed
    · exact closeSound_of hclosed 0 (.inl ⟨_, rfl⟩)
  · rename_i id hprogress
    have hclosed : s.closed = true := h.called.mpr (by simp [hprogress])
    split
    · exact h
    · exact closeSound_of hclosed 0 (.inl ⟨_, rfl⟩)
  · exact h

/-- Every action keeps what closing awaits among the tasks of the sender. -/
theorem perform_closeSound {s : RemoteInputSender} (h : CloseSound s) :
    CloseSound (action.perform channels s).1 := by
  by_cases hclose : action = .close
  · rw [hclose]
    exact close_closeSound channels h
  by_cases hcontinue : action = .continueClose
  · rw [hcontinue]
    exact continueClose_closeSound channels h
  · obtain ⟨hframe, hclosed, hfuture⟩ := perform_quiet channels action hclose hcontinue s
    refine { called := by rw [hclosed, hfuture]; exact h.called, awaited := fun id hid => ?_ }
    rw [hfuture] at hid
    exact (h.awaited id hid).trans_le hframe.accepted.length_le

theorem abort_failed (s : RemoteInputSender) : s.abort.reliableFailed = true := by
  unfold abort
  split_ifs with hfailed
  · exact hfailed
  · rfl

/-- After an abort no task is queued. -/
theorem abort_underWay (s : RemoteInputSender) : UnderWay s.abort :=
  fun hfailed => absurd ((abort_failed s).symm.trans hfailed) nofun

/-- A dispatch hands over, sets the timer or empties the queue. -/
theorem dispatchReliable_underWay (bufferedAmount : Int) (s : RemoteInputSender) :
    UnderWay (s.dispatchReliable channels bufferedAmount) := by
  unfold dispatchReliable
  split
  · rename_i hempty
    exact fun _ hqueue => absurd hempty hqueue
  · by_cases hstop : s.reliableFailed = true ∨ s.activeReliable.isSome = true
    · rw [if_pos hstop]
      rcases hstop with hfailed | hactive
      · exact fun hrunning => absurd (hfailed.symm.trans hrunning) nofun
      · exact fun _ _ => .inl hactive
    · rw [if_neg hstop]
      split_ifs
      · exact fun _ _ => .inr (.inr rfl)
      · exact fun _ _ => .inl rfl
      · exact abort_underWay _

/-- A pump dispatches, reads the buffered amount or leaves no task queued. -/
theorem pumpReliable_underWay (s : RemoteInputSender) : UnderWay (s.pumpReliable channels) := by
  unfold pumpReliable
  split_ifs with hstop
  · rcases hstop with hfailed | hactive | hempty | hreading
    · exact fun hrunning => absurd (hfailed.symm.trans hrunning) nofun
    · exact fun _ _ => .inl hactive
    · exact fun _ hqueue => absurd hempty hqueue
    · exact fun _ _ => .inr (.inl hreading)
  · exact fun _ _ => .inr (.inl rfl)
  · split
    · exact dispatchReliable_underWay channels _ s
    · exact abort_underWay s

/-- An accepted event is pumped at once. -/
theorem sendReliable_underWay (event : ReliableInputEvent) (s : RemoteInputSender) :
    UnderWay (s.sendReliable channels event).1 := by
  unfold sendReliable
  split_ifs with hfailed
  · exact fun hrunning => absurd (hfailed.symm.trans hrunning) nofun
  · exact abort_underWay s
  · exact pumpReliable_underWay channels _

/-- What decides whether something is under way. -/
def work (s : RemoteInputSender) :=
  (s.reliableFailed, s.reliableQueue, s.activeReliable, s.reliableBufferReadInFlight,
    s.reliableRetryTimer)

/-- Whether something is under way depends on the reliable channel only. -/
theorem UnderWay.of_eq {s s' : RemoteInputSender} (h : UnderWay s) (hwork : s'.work = s.work) :
    UnderWay s' := by
  simp only [work, Prod.mk.injEq] at hwork
  obtain ⟨hfailed, hqueue, hactive, hreading, htimer⟩ := hwork
  unfold UnderWay
  rw [hfailed, hqueue, hactive, hreading, htimer]
  exact h

/-- Scheduling a move leaves what is under way. -/
theorem schedulePendingPointerMove_underWay {s : RemoteInputSender} (h : UnderWay s) :
    UnderWay s.schedulePendingPointerMove := by
  unfold schedulePendingPointerMove
  split_ifs
  · exact h
  · exact h.of_eq rfl

/-- So does a fast event. -/
theorem sendFastBestEffort_underWay {s : RemoteInputSender}
    (h : UnderWay s) : UnderWay (s.sendFastBestEffort channels event).1 := by
  unfold sendFastBestEffort
  split_ifs
  · exact h
  · split
    · exact h
    · split_ifs
      · exact h
      · exact h.of_eq rfl

/-- So does flushing a move. -/
theorem flushPointerMove_underWay {s : RemoteInputSender} (h : UnderWay s) :
    UnderWay (s.flushPointerMove channels) := by
  unfold flushPointerMove
  split
  · exact h.of_eq rfl
  · split_ifs
    · exact h.of_eq rfl
    · exact h.of_eq rfl
    · split
      · exact h.of_eq rfl
      · split_ifs
        · exact h.of_eq rfl
        · exact sendFastBestEffort_underWay channels _ (h.of_eq rfl)

/-- So does the answer of the fast channel. -/
theorem fastCompleted_underWay (sent : Bool) {s : RemoteInputSender} (h : UnderWay s) :
    UnderWay (s.fastCompleted sent) := by
  unfold fastCompleted
  split
  · exact h
  · have hended : UnderWay { s with
        fastSendInFlight := none, fastOutcomes := s.fastOutcomes ++ [sent] } :=
      h.of_eq rfl
    have hscheduled := schedulePendingPointerMove_underWay hended
    dsimp only
    split
    · split_ifs
      · exact hscheduled
      · exact hscheduled.of_eq rfl
    · exact hscheduled

/-- Input is pumped at once, or leaves what is under way. -/
theorem Entered.underWay {channels : InputDataChannels} {action : SenderAction}
    {s : RemoteInputSender} {result : RemoteInputSender × SenderFuture}
    (hentered : Entered channels action s result) (h : UnderWay s) : UnderWay result.1 := by
  cases hentered with
  | refused => exact h
  | invalid => exact h.of_eq rfl
  | reliable hopen event => exact sendReliable_underWay channels event _
  | fast hopen event => exact sendFastBestEffort_underWay channels event (h.of_eq rfl)
  | waiting => exact schedulePendingPointerMove_underWay (h.of_eq rfl)

/-- So is a release. -/
theorem releaseAll_underWay {s : RemoteInputSender} (h : UnderWay s) :
    UnderWay (s.releaseAll channels).1 := by
  unfold releaseAll
  split_ifs
  · exact h
  · exact sendReliable_underWay channels _ _

/-- Waiting for the close leaves what is under way. -/
theorem awaitClose_underWay {result : RemoteInputSender × SenderFuture} (h : UnderWay result.1) :
    UnderWay (awaitClose progress result) := by
  unfold awaitClose
  split <;> exact h.of_eq rfl

/-- The close message is pumped at once. -/
theorem sendClose_underWay (s : RemoteInputSender) : UnderWay (s.sendClose channels) :=
  awaitClose_underWay _ (sendReliable_underWay channels _ _)

/-- So is the release of a close. -/
theorem close_underWay {s : RemoteInputSender} (h : UnderWay s) :
    UnderWay (s.close channels).1 := by
  unfold close
  split_ifs
  · exact h
  · dsimp only
    split_ifs
    · exact fun _ hqueue => absurd rfl hqueue
    · exact sendClose_underWay channels _
    · exact awaitClose_underWay _ (sendReliable_underWay channels _ _)

/-- So is what the close sends when it goes on. -/
theorem continueClose_underWay {s : RemoteInputSender} (h : UnderWay s) :
    UnderWay (s.continueClose channels) := by
  unfold continueClose
  split
  · split
    · exact h
    · exact sendClose_underWay channels s
    · exact h.of_eq rfl
  · split
    · exact h
    · exact h.of_eq rfl
  · exact h

/-- Whatever the action, something is under way that goes on with the queue. -/
theorem perform_underWay {s : RemoteInputSender} (h : UnderWay s) :
    UnderWay (action.perform channels s).1 := by
  cases action with
  | pointerButton | pointerClick | keyboard | text | scroll | pointerMove =>
    exact (perform_entered channels (by rfl) s).underWay h
  | releaseAll => exact releaseAll_underWay channels h
  | suspend =>
    change UnderWay (s.suspend channels).1
    unfold suspend
    split_ifs
    · exact h
    · exact releaseAll_underWay channels (h.of_eq rfl)
  | resume =>
    change UnderWay s.resume.1
    unfold resume
    split_ifs
    · exact h
    · exact h.of_eq rfl
  | close => exact close_underWay channels h
  | continueClose => exact continueClose_underWay channels h
  | sendCompleted id =>
    change UnderWay (s.sendCompleted channels id)
    unfold sendCompleted
    split
    · exact h
    · split_ifs
      · exact h
      · exact pumpReliable_underWay channels _
  | abort => exact abort_underWay s
  | retry =>
    change UnderWay (s.retry channels)
    unfold retry
    split_ifs
    · exact pumpReliable_underWay channels _
    · exact h
  | bufferedAmountRead result =>
    change UnderWay (s.bufferedAmountRead channels result)
    unfold bufferedAmountRead
    split_ifs
    · split
      · exact dispatchReliable_underWay channels _ _
      · exact abort_underWay _
    · exact h
  | timeout id =>
    change UnderWay (s.timeout id)
    unfold timeout
    split_ifs
    · exact abort_underWay _
    · exact h
  | frame => exact flushPointerMove_underWay channels h
  | fastCompleted sent => exact fastCompleted_underWay sent h

/-! ## What a call returns -/

/-- A close closes at once. -/
theorem close_closed (s : RemoteInputSender) : (s.close channels).1.closed = true := by
  unfold close
  split_ifs with hclosed
  · exact hclosed
  · dsimp only
    split_ifs
    · rfl
    · exact (sendClose_frame channels _).2
    · exact (awaitClose_frame .releasing _).2.trans (sendReliable_frame channels _ _).2.1

/-- The invariant of the sender. -/
structure SenderSound (s : RemoteInputSender) : Prop where
  queue : QueueSound s
  underWay : UnderWay s
  closing : CloseSound s

/-- A new sender is sound. -/
theorem initial_senderSound (encoder : InputEncoder) (sessionId : Bytes) :
    SenderSound (initial encoder sessionId) where
  queue := initial_sound encoder sessionId
  underWay := fun _ hqueue => absurd rfl hqueue
  closing := initial_closeSound encoder sessionId

/-- Every action keeps the sender sound. -/
theorem step_senderSound {s : RemoteInputSender} (h : SenderSound s)
    (input : InputDataChannels × SenderAction) : SenderSound (senderMachine.step s input).1 where
  queue := h.queue.perform_sound input.1 input.2
  underWay := perform_underWay input.1 input.2 h.underWay
  closing := perform_closeSound input.1 input.2 h.closing

/-- So does every run. -/
theorem run_senderSound {s : RemoteInputSender} (h : SenderSound s)
    (inputs : List (InputDataChannels × SenderAction)) :
    SenderSound (senderMachine.run s inputs) :=
  senderMachine.run_invariant SenderSound (fun _ input h _ => step_senderSound h input) h
    (senderMachine.guarded_true s inputs)

end RemoteInputSender

end Client

end Roammand
