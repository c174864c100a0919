import Roammand.Client.InputRelease

/-!
# What an action adds to the stream of the sender

An owner that shares the sender with others reasons about the events that it has queued
itself, those that others have queued, and what a release of others has cancelled.

Main results:

- Definition `Adds`: a step appends events to what is queued, and cancels nothing.
- Theorem `perform_adds`: every action but the releases does just that.
- Theorem `perform_accepted`: releases too only append to what has ever been queued.
- Theorem `perform_cancels`: a release cancels what is queued, or changes nothing.
-/

namespace Roammand

namespace Client

open Library Host

/-- The action may release what is pressed. -/
def SenderAction.releases : SenderAction → Bool
  | .releaseAll | .suspend | .close => true
  | _ => false

namespace RemoteInputSender

/-- The future of a task has been cancelled. -/
def IsCancelled (s : RemoteInputSender) (id : Nat) : Prop :=
  (id, some InputSenderErrorCode.cancelled) ∈ s.completions

/-- A step appends the events to what is queued.  It cancels nothing, unless it ends the
sender. -/
structure Adds (events : List ReliableInputEvent) (s s' : RemoteInputSender) : Prop where
  accepted : s'.accepted = s.accepted ++ events
  failed : s.reliableFailed = true → s'.reliableFailed = true
  stream : s'.reliableFailed = false → s'.stream = s.stream ++ events
  cancelled : s'.reliableFailed = false → ∀ id, s'.IsCancelled id → s.IsCancelled id

/-- What the events of the reliable channel and their futures depend on. -/
def feed (s : RemoteInputSender) :=
  (s.accepted, s.reliableFailed, s.handedReliable, s.reliableQueue, s.completions)

namespace Adds

variable {s s' s'' : RemoteInputSender} {events more : List ReliableInputEvent}

/-- A step that leaves the feed adds nothing to it. -/
theorem of_eq (h : s'.feed = s.feed) : Adds [] s s' := by
  simp only [feed, Prod.mk.injEq] at h
  obtain ⟨haccepted, hfailed, hhanded, hqueue, hcompletions⟩ := h
  refine ⟨by rw [haccepted, List.append_nil], fun hf => hfailed.trans hf, fun _ => ?_,
    fun _ id => ?_⟩
  · rw [RemoteInputSender.stream, handedEvents, hhanded, hqueue, List.append_nil]
    rfl
  · rw [IsCancelled, hcompletions]
    exact fun hid => hid

/-- Doing nothing adds nothing. -/
theorem refl (s : RemoteInputSender) : Adds [] s s := .of_eq rfl

/-- What two steps add is added in order. -/
theorem trans (h : Adds events s s') (h' : Adds more s' s'') : Adds (events ++ more) s s'' := by
  have hbefore : s''.reliableFailed = false → s'.reliableFailed = false := fun hrunning =>
    Bool.eq_false_iff.mpr fun hf => absurd ((h'.failed hf).symm.trans hrunning) nofun
  refine ⟨?_, fun hf => h'.failed (h.failed hf), fun hrunning => ?_, fun hrunning id hid => ?_⟩
  · rw [h'.accepted, h.accepted, List.append_assoc]
  · rw [h'.stream hrunning, h.stream (hbefore hrunning), List.append_assoc]
  · exact h.cancelled (hbefore hrunning) id (h'.cancelled hrunning id hid)

/-- Nothing has to be shown about the end of the sender. -/
theorem of_failed (haccepted : s'.accepted = s.accepted) (hfailed : s'.reliableFailed = true) :
    Adds [] s s' :=
  ⟨by rw [haccepted, List.append_nil], fun _ => hfailed,
    fun hrunning => absurd (hfailed.symm.trans hrunning) nofun,
    fun hrunning => absurd (hfailed.symm.trans hrunning) nofun⟩

end Adds

/-- An abort accepts nothing. -/
theorem abort_accepted (s : RemoteInputSender) : s.abort.accepted = s.accepted := by
  unfold abort
  split_ifs <;> rfl

/-- An abort adds nothing. -/
theorem abort_adds (s : RemoteInputSender) : Adds [] s s.abort :=
  .of_failed (abort_accepted s) (abort_failed s)

/-- An item that is handed over was accepted before. -/
theorem handOver_adds {s : RemoteInputSender} {task : ReliableInputTask}
    {queue : List ReliableInputTask} (hqueue : s.reliableQueue = task :: queue) :
    Adds [] s (s.handOver task queue) :=
  ⟨(List.append_nil _).symm, id, fun _ => by rw [stream_handOver hqueue, List.append_nil],
    fun _ _ hid => hid⟩

/-- Pumping adds nothing. -/
theorem Pumped.adds {s s' : RemoteInputSender} (h : Pumped s s') : Adds [] s s' := by
  cases h with
  | rest => exact .refl s
  | reading => exact .of_eq rfl
  | paused => exact .of_eq rfl
  | aborted => exact abort_adds s
  | handed hqueue => exact handOver_adds hqueue
  | refused hqueue => exact (handOver_adds hqueue).trans (abort_adds _)

variable (channels : InputDataChannels)

/-- An event is refused, or it is queued under the next number. -/
theorem sendReliable_spec (event : ReliableInputEvent) (s : RemoteInputSender) :
    ((s.sendReliable channels event).2 = .failed .channel ∧
        (s.sendReliable channels event).1.reliableFailed = true ∧
        Adds [] s (s.sendReliable channels event).1) ∨
      ((s.sendReliable channels event).2 = .task s.accepted.length ∧
        s.reliableFailed = false ∧ Adds [event] s (s.sendReliable channels event).1) := by
  unfold sendReliable
  split_ifs with hfailed
  · exact .inl ⟨rfl, hfailed, .refl s⟩
  · exact .inl ⟨rfl, abort_failed s, abort_adds s⟩
  · rw [Bool.not_eq_true] at hfailed
    have hqueued : Adds [event] s (s.enqueueReliable event) := by
      refine ⟨rfl, id, fun _ => ?_, fun _ _ hid => hid⟩
      simp [stream, handedEvents, enqueueReliable]
    exact .inr ⟨rfl, hfailed, hqueued.trans (pumpReliable_pumped channels _).adds⟩

/-! ## Events of others -/

/-- A step appends plain events. -/
def AddsPlain (s s' : RemoteInputSender) : Prop :=
  ∃ events, Adds events s s' ∧ ∀ e ∈ events, Plain e

namespace AddsPlain

variable {s s' s'' : RemoteInputSender}

/-- What adds nothing adds nothing but plain events. -/
theorem of_adds (h : Adds [] s s') : AddsPlain s s' := ⟨[], h, nofun⟩

/-- A step that leaves the feed adds nothing but plain events. -/
theorem of_eq (h : s'.feed = s.feed) : AddsPlain s s' := .of_adds (.of_eq h)

/-- Doing nothing adds nothing but plain events. -/
theorem refl (s : RemoteInputSender) : AddsPlain s s := .of_eq rfl

/-- What comes after a step that adds nothing. -/
theorem after (h : Adds [] s s') (h' : AddsPlain s' s'') : AddsPlain s s'' := by
  obtain ⟨events, hadds, hplain⟩ := h'
  exact ⟨events, h.trans hadds, hplain⟩

end AddsPlain

variable {event : ReliableInputEvent}

/-- Sending a plain event adds nothing else. -/
theorem sendReliable_addsPlain (hplain : Plain event)
    (s : RemoteInputSender) : AddsPlain s (s.sendReliable channels event).1 := by
  rcases sendReliable_spec channels event s with ⟨_, _, hadds⟩ | ⟨_, _, hadds⟩
  · exact .of_adds hadds
  · refine ⟨[event], hadds, fun e he => ?_⟩
    rw [List.mem_singleton.mp he]
    exact hplain

/-- The fast channel does not touch the feed. -/
theorem sendFastBestEffort_feed (event : PointerFastEvent) (s : RemoteInputSender) :
    (s.sendFastBestEffort channels event).1.feed = s.feed := by
  unfold sendFastBestEffort
  split_ifs
  · rfl
  · split
    · rfl
    · split_ifs <;> rfl

/-- Scheduling a move does not touch the feed. -/
theorem schedulePendingPointerMove_feed (s : RemoteInputSender) :
    s.schedulePendingPointerMove.feed = s.feed := by
  unfold schedulePendingPointerMove
  split_ifs <;> rfl

/-- Nor does flushing it. -/
theorem flushPointerMove_feed (s : RemoteInputSender) :
    (s.flushPointerMove channels).feed = s.feed := by
  unfold flushPointerMove
  split
  · rfl
  · split_ifs
    · rfl
    · rfl
    · split
      · rfl
      · split_ifs
        · rfl
        · exact sendFastBestEffort_feed channels _ _

/-- Nor does the answer of the fast channel. -/
theorem fastCompleted_feed (sent : Bool) (s : RemoteInputSender) :
    (s.fastCompleted sent).feed = s.feed := by
  unfold fastCompleted
  split
  · rfl
  · have hscheduled := schedulePendingPointerMove_feed
      { s with fastSendInFlight := none, fastOutcomes := s.fastOutcomes ++ [sent] }
    dsimp only
    split
    · split_ifs <;> exact hscheduled
    · exact hscheduled

/-- Input that is not of the keyboard adds nothing but plain events. -/
theorem Entered.addsPlain {channels : InputDataChannels} {action : SenderAction}
    {s : RemoteInputSender}
    {result : RemoteInputSender × SenderFuture} (hkeyboard : action.isKeyboard = false)
    (h : Entered channels action s result) : AddsPlain s result.1 := by
  cases h with
  | refused => exact .refl s
  | invalid => exact .of_eq rfl
  | reliable hopen event hplain =>
    have hsent := sendReliable_addsPlain channels (hplain hkeyboard) s.clearRelease
    refine AddsPlain.after ?_ hsent
    exact .of_eq rfl
  | fast hopen event => exact .of_eq (sendFastBestEffort_feed channels event s.clearRelease)
  | waiting => exact .of_eq (schedulePendingPointerMove_feed _)

/-- Closing sends no release of its own. -/
theorem sendClose_addsPlain (s : RemoteInputSender) : AddsPlain s (s.sendClose channels) := by
  obtain ⟨events, hadds, hplain⟩ := sendReliable_addsPlain channels
    (show Plain closeEvent from trivial) s
  have hfeed : (s.sendClose channels).feed = (s.sendReliable channels closeEvent).1.feed := by
    unfold sendClose
    generalize s.sendReliable channels closeEvent = result
    unfold awaitClose
    split <;> rfl
  exact ⟨events ++ [], hadds.trans (.of_eq hfeed), by simpa using hplain⟩

/-- Every action of others but the releases appends plain events. -/
theorem perform_adds (action : SenderAction) (hkeyboard : action.isKeyboard = false)
    (hreleases : action.releases = false) (s : RemoteInputSender) :
    AddsPlain s (action.perform channels s).1 := by
  cases action with
  | pointerButton | pointerClick | keyboard | text | scroll | pointerMove =>
    exact (perform_entered channels (by rfl) s).addsPlain hkeyboard
  | releaseAll => cases hreleases
  | suspend => cases hreleases
  | resume =>
    change AddsPlain s s.resume.1
    unfold resume
    split_ifs
    · exact .refl s
    · exact .of_eq rfl
  | close => cases hreleases
  | continueClose =>
    change AddsPlain s (s.continueClose channels)
    unfold continueClose
    split
    · split
      · exact .refl s
      · exact sendClose_addsPlain channels s
      · exact .of_eq rfl
    · split
      · exact .refl s
      · exact .of_eq rfl
    · exact .refl s
  | sendCompleted id =>
    change AddsPlain s (s.sendCompleted channels id)
    unfold sendCompleted
    split
    · exact .refl s
    · rename_i task _
      split_ifs
      · exact .refl s
      · have hsettled : Adds [] s { s with
            activeReliable := none
            pendingReliableBytes := s.pendingReliableBytes - task.budgetBytes
            timers := s.timers.erase task.id
            completions := s.completions ++ [(task.id, none)] } := by
          refine ⟨(List.append_nil _).symm, fun hf => hf, fun _ => (List.append_nil _).symm, ?_⟩
          intro _ id hid
          rcases List.mem_append.mp hid with hid | hid
          · exact hid
          · cases List.mem_singleton.mp hid
        exact .of_adds (hsettled.trans (pumpReliable_pumped channels _).adds)
  | abort => exact .of_adds (abort_adds s)
  | retry =>
    change AddsPlain s (s.retry channels)
    unfold retry
    split_ifs
    · refine AddsPlain.after ?_ (.of_adds (pumpReliable_pumped channels _).adds)
      exact .of_eq rfl
    · exact .refl s
  | bufferedAmountRead result =>
    change AddsPlain s (s.bufferedAmountRead channels result)
    unfold bufferedAmountRead
    split_ifs
    · split
      · refine AddsPlain.after ?_ (.of_adds (dispatchReliable_pumped channels _ _).adds)
        exact .of_eq rfl
      · refine AddsPlain.after ?_ (.of_adds (abort_adds _))
        exact .of_eq rfl
    · exact .refl s
  | timeout id =>
    change AddsPlain s (s.timeout id)
    unfold timeout
    split_ifs
    · refine AddsPlain.after ?_ (.of_adds (abort_adds _))
      exact .of_eq rfl
    · exact .refl s
  | frame => exact .of_eq (flushPointerMove_feed channels s)
  | fastCompleted sent => exact .of_eq (fastCompleted_feed sent s)

/-! ## Releases -/

/-- What a release does: it changes nothing about the queue, or cancels it and appends a
release or the end of the session. -/
structure Releases (s s' : RemoteInputSender) : Prop where
  accepted : s'.accepted = s.accepted ∨ s'.accepted = s.accepted ++ [.releaseAllInput] ∨
    s'.accepted = s.accepted ++ [closeEvent]
  failed : s.reliableFailed = true → s'.reliableFailed = true
  queued : s'.reliableFailed = false →
    s'.feed = s.feed ∨ ∀ task ∈ s.reliableQueue, s'.IsCancelled task.id

/-- A release that comes after a cancelled queue releases everything. -/
theorem sendReliable_releases
    (hevent : event = .releaseAllInput ∨ event = closeEvent) {s s' : RemoteInputSender}
    (haccepted : s'.accepted = s.accepted) (hfailed : s'.reliableFailed = s.reliableFailed)
    (hqueue : ∀ task ∈ s.reliableQueue, s'.IsCancelled task.id) :
    Releases s (s'.sendReliable channels event).1 := by
  have hframe := (sendReliable_frame channels event s').1
  have hcancelled : ∀ task ∈ s.reliableQueue,
      (s'.sendReliable channels event).1.IsCancelled task.id := fun task htask =>
    hframe.completions.subset (hqueue task htask)
  rcases sendReliable_spec channels event s' with ⟨_, hend, hadds⟩ | ⟨_, _, hadds⟩
  · refine ⟨.inl ?_, fun _ => hend, fun _ => .inr hcancelled⟩
    rw [hadds.accepted, List.append_nil, haccepted]
  · refine ⟨.inr ?_, fun hf => hadds.failed (hfailed.trans hf), fun _ => .inr hcancelled⟩
    rw [hadds.accepted, haccepted]
    exact hevent.imp (fun h => by rw [h]) fun h => by rw [h]

/-- Cancelling the queue cancels each task in it. -/
theorem cancelQueuedReliable_cancelled {s : RemoteInputSender} (h : QueueSound s)
    {task : ReliableInputTask} (htask : task ∈ s.reliableQueue) :
    s.cancelQueuedReliable.IsCancelled task.id := by
  have hparts : (s.completions.map (·.1) ++ s.reliableQueue.map (·.id)).Nodup := by
    refine h.nodup.sublist (List.Sublist.append_left ?_ _)
    simp [pendingIds, pendingTasks]
  have hcompletions : s.cancelQueuedReliable.completions =
      s.completions ++ s.reliableQueue.map fun task => (task.id, some .cancelled) :=
    foldl_completeError .cancelled hparts
  rw [IsCancelled, hcompletions]
  exact List.mem_append_right _ (List.mem_map.mpr ⟨task, htask, rfl⟩)

/-- Doing nothing leaves nothing to be released. -/
theorem Releases.refl (s : RemoteInputSender) : Releases s s :=
  ⟨.inl rfl, id, fun _ => .inl rfl⟩

/-- Releasing everything cancels the queue first. -/
theorem releaseAll_releases {s : RemoteInputSender} (h : QueueSound s) :
    Releases s (s.releaseAll channels).1 := by
  unfold releaseAll
  split_ifs
  · exact .refl s
  · exact sendReliable_releases channels (.inl rfl) rfl rfl fun task htask =>
      cancelQueuedReliable_cancelled h.dropPendingMove_sound htask

/-- Waiting for the close does not touch the feed. -/
theorem awaitClose_feed (progress : Nat → CloseProgress)
    (result : RemoteInputSender × SenderFuture) :
    (awaitClose progress result).feed = result.1.feed := by
  unfold awaitClose
  split <;> rfl

/-- A release stays one while the feed is left alone. -/
theorem Releases.of_feed {s s' s'' : RemoteInputSender} (h : Releases s s')
    (hfeed : s''.feed = s'.feed) : Releases s s'' := by
  have hparts := hfeed
  simp only [feed, Prod.mk.injEq] at hparts
  obtain ⟨haccepted, hfailed, _, _, hcompletions⟩ := hparts
  refine ⟨haccepted ▸ h.accepted, fun hf => hfailed.trans (h.failed hf), fun hrunning => ?_⟩
  rcases h.queued (hfailed ▸ hrunning) with hsame | hcancelled
  · exact .inl (hfeed.trans hsame)
  · refine .inr fun task htask => ?_
    rw [IsCancelled, hcompletions]
    exact hcancelled task htask

/-- Closing releases what is still held. -/
theorem close_releases {s : RemoteInputSender} (h : QueueSound s) :
    Releases s (s.close channels).1 := by
  unfold close
  split_ifs
  · exact .refl s
  · have hmarked : QueueSound { s with closed := true } := { h with numbered := h.numbered }
    have hcancelled : ∀ task ∈ s.reliableQueue,
        ({ s with closed := true }.cancelQueuedReliable.dropPendingMove).IsCancelled task.id :=
      fun task htask => cancelQueuedReliable_cancelled hmarked htask
    dsimp only
    split_ifs with hfailed
    · exact ⟨.inl rfl, fun _ => hfailed, fun _ => .inr hcancelled⟩
    · refine Releases.of_feed ?_ (awaitClose_feed .controlling _)
      refine sendReliable_releases channels (.inr rfl) ?_ ?_ hcancelled <;> rfl
    · refine Releases.of_feed ?_ (awaitClose_feed .releasing _)
      refine sendReliable_releases channels (.inl rfl) ?_ ?_ hcancelled <;> rfl

/-- A release, a suspension and the end only cancel what is queued, and append a release
or the end of the session. -/
theorem perform_cancels {action : SenderAction} (hreleases : action.releases = true)
    {s : RemoteInputSender} (h : QueueSound s) : Releases s (action.perform channels s).1 := by
  cases action with
  | releaseAll => exact releaseAll_releases channels h
  | suspend =>
    change Releases s (s.suspend channels).1
    unfold suspend
    split_ifs
    · exact .refl s
    · have hsuspended : QueueSound { s.dropPendingMove with suspended := true } :=
        { h with ended := fun hf => ⟨(h.ended hf).1, rfl, rfl, (h.ended hf).2.2.2⟩ }
      obtain ⟨haccepted, hfailed, hqueued⟩ := releaseAll_releases channels hsuspended
      exact ⟨haccepted, hfailed, hqueued⟩
  | close => exact close_releases channels h
  | _ => cases hreleases

end RemoteInputSender

end Client

end Roammand
