import Roammand.Client.InputQueue

/-!
# The release comes last

What the Host will have seen of the reliable channel is what has been handed over and
then what is queued.  After a release, a suspension or the end this stream ends with a
release, and it stays so until new input is accepted: a release that is cancelled
no longer counts as sent, and the flag is set only when the queue has been emptied.

Main results:

- Definition `Quieted`: nothing but releases and the end can still be handed over.
- Theorem `perform_quieted`: a step without new input keeps it so.
- Theorem `release_comes_last`: the release comes last in every run.
-/

namespace Roammand

namespace Client

open Library Host

namespace RemoteInputSender

/-! ## The stream of events -/

/-- The events that have been handed to the reliable channel. -/
def handedEvents (s : RemoteInputSender) : List ReliableInputEvent :=
  s.handedReliable.filterMap (·.2.event)

/-- The events that have been handed over or are queued, in their order. -/
def stream (s : RemoteInputSender) : List ReliableInputEvent :=
  s.handedEvents ++ s.reliableQueue.map (·.event)

/-- The event releases what is pressed, or ends the session. -/
def Trailing (event : ReliableInputEvent) : Prop := event = .releaseAllInput ∨ event = closeEvent

variable (events : List ReliableInputEvent)

/-- The events end with a release, which only the end of the session may follow. -/
def EndsReleased : Prop :=
  ∃ before after, events = before ++ .releaseAllInput :: after ∧ ∀ e ∈ after, e = closeEvent

theorem EndsReleased.release :
    EndsReleased (events ++ [.releaseAllInput]) :=
  ⟨events, [], rfl, nofun⟩

theorem EndsReleased.close {events : List ReliableInputEvent} (h : EndsReleased events) :
    EndsReleased (events ++ [closeEvent]) := by
  obtain ⟨before, after, rfl, hafter⟩ := h
  refine ⟨before, after ++ [closeEvent], by simp, fun e he => ?_⟩
  rcases List.mem_append.mp he with he | he
  · exact hafter e he
  · exact List.mem_singleton.mp he

/-- Without a release among the last events, the others end with one. -/
theorem EndsReleased.of_append {events rest : List ReliableInputEvent}
    (h : EndsReleased (events ++ rest)) (hrest : .releaseAllInput ∉ rest) :
    EndsReleased events := by
  obtain ⟨before, after, heq, hafter⟩ := h
  rcases List.append_eq_append_iff.mp heq with ⟨middle, rfl, hmiddle⟩ | ⟨middle, rfl, hmiddle⟩
  · exact absurd (hmiddle ▸ by simp) hrest
  · cases middle with
    | nil => exact absurd (by rw [List.nil_append] at hmiddle; simp [← hmiddle]) hrest
    | cons e middle =>
      rw [List.cons_append, List.cons.injEq] at hmiddle
      obtain ⟨rfl, rfl⟩ := hmiddle
      exact ⟨before, middle, rfl, fun e he => hafter e (List.mem_append_left _ he)⟩

/-! ## What a quiet sender hands over -/

/-- Only releases and the end of the session have been handed over. -/
def Silent (s s' : RemoteInputSender) : Prop :=
  s'.handedFast = s.handedFast ∧
    ∃ more, s'.handedReliable = s.handedReliable ++ more ∧
      ∀ h ∈ more, ∃ event, h.2.event = some event ∧ Trailing event

/-- The stream ends with a release, and nothing else waits in the sender.  So does all
that has ever been queued. -/
structure Quieted (s : RemoteInputSender) : Prop where
  ends : EndsReleased s.stream
  accepted : EndsReleased s.accepted
  queue : ∀ task ∈ s.reliableQueue, Trailing task.event
  move : s.pendingMove = none

namespace Silent

variable {s s' s'' : RemoteInputSender}

theorem of_eq (hhanded : s'.handedReliable = s.handedReliable)
    (hfast : s'.handedFast = s.handedFast) : Silent s s' :=
  ⟨hfast, [], by rw [hhanded, List.append_nil], nofun⟩

theorem refl (s : RemoteInputSender) : Silent s s := .of_eq rfl rfl

theorem trans (h : Silent s s') (h' : Silent s' s'') : Silent s s'' := by
  obtain ⟨hfast, more, hhanded, hmore⟩ := h
  obtain ⟨hfast', more', hhanded', hmore'⟩ := h'
  refine ⟨hfast'.trans hfast, more ++ more', by rw [hhanded', hhanded, List.append_assoc], ?_⟩
  intro entry hentry
  rcases List.mem_append.mp hentry with hentry | hentry
  · exact hmore entry hentry
  · exact hmore' entry hentry

end Silent

theorem abort_handed (s : RemoteInputSender) :
    s.abort.handedReliable = s.handedReliable ∧ s.abort.handedFast = s.handedFast := by
  unfold abort
  split_ifs <;> exact ⟨rfl, rfl⟩

theorem abort_silent (s : RemoteInputSender) : Silent s s.abort :=
  .of_eq (abort_handed s).1 (abort_handed s).2

/-- The sender has failed, or only releases and the end of the session are still to come. -/
def Stays (s s' : RemoteInputSender) : Prop :=
  Silent s s' ∧ (s'.reliableFailed = false → Quieted s')

theorem abort_stays (s : RemoteInputSender) : Stays s s.abort :=
  ⟨abort_silent s, fun hrunning => absurd ((abort_failed s).symm.trans hrunning) nofun⟩

theorem stream_handOver {s : RemoteInputSender} {task : ReliableInputTask}
    {queue : List ReliableInputTask} (hqueue : s.reliableQueue = task :: queue) :
    (s.handOver task queue).stream = s.stream := by
  simp [stream, handedEvents, handOver, hqueue]

theorem Pumped.stays {s s' : RemoteInputSender} (h : Pumped s s') (hs : Quieted s) :
    Stays s s' := by
  have hhanded : ∀ {task queue}, s.reliableQueue = task :: queue →
      Stays s (s.handOver task queue) := by
    intro task queue hqueue
    have htask : Trailing task.event := hs.queue task (by simp [hqueue])
    refine ⟨⟨rfl, [_], rfl, fun entry hentry => ?_⟩, fun _ => ⟨?_, hs.accepted, ?_, hs.move⟩⟩
    · rw [List.mem_singleton.mp hentry]
      exact ⟨task.event, rfl, htask⟩
    · rw [stream_handOver hqueue]
      exact hs.ends
    · exact fun other hother => hs.queue other (hqueue ▸ List.mem_cons_of_mem _ hother)
  cases h with
  | rest => exact ⟨.refl s, fun _ => hs⟩
  | reading => exact ⟨.of_eq rfl rfl, fun _ => ⟨hs.ends, hs.accepted, hs.queue, hs.move⟩⟩
  | paused => exact ⟨.of_eq rfl rfl, fun _ => ⟨hs.ends, hs.accepted, hs.queue, hs.move⟩⟩
  | aborted => exact abort_stays s
  | handed hqueue => exact hhanded hqueue
  | @refused task queue hqueue =>
    have habort := abort_stays (s.handOver task queue)
    exact ⟨(hhanded hqueue).1.trans habort.1, habort.2⟩

/-- The flags that block input and ask for a release. -/
def releaseFlags (s : RemoteInputSender) := (s.releaseSent, s.suspended, s.closed)

theorem Pumped.flags {s s' : RemoteInputSender} (h : Pumped s s')
    (hrunning : s'.reliableFailed = false) :
    s.reliableFailed = false ∧ s'.releaseFlags = s.releaseFlags := by
  cases h with
  | rest => exact ⟨hrunning, rfl⟩
  | reading => exact ⟨hrunning, rfl⟩
  | paused => exact ⟨hrunning, rfl⟩
  | aborted => exact absurd ((abort_failed s).symm.trans hrunning) nofun
  | handed => exact ⟨hrunning, rfl⟩
  | refused => exact absurd ((abort_failed _).symm.trans hrunning) nofun

variable (channels : InputDataChannels)

variable (event : ReliableInputEvent)

theorem sendReliable_flags {s : RemoteInputSender}
    (hrunning : (s.sendReliable channels event).1.reliableFailed = false) :
    s.reliableFailed = false ∧
      (s.sendReliable channels event).1.releaseFlags = s.releaseFlags := by
  revert hrunning
  unfold sendReliable
  split_ifs
  · exact fun hrunning => ⟨hrunning, rfl⟩
  · exact fun hrunning => absurd ((abort_failed s).symm.trans hrunning) nofun
  · exact fun hrunning => (pumpReliable_pumped channels (s.enqueueReliable event)).flags hrunning

/-- Queuing a release or the end of the session. -/
theorem sendReliable_stays {event : ReliableInputEvent} (hevent : Trailing event)
    {s : RemoteInputSender}
    (hends : s.reliableFailed = false → EndsReleased (s.stream ++ [event]) ∧
      EndsReleased (s.accepted ++ [event]))
    (hqueue : ∀ task ∈ s.reliableQueue, Trailing task.event) (hmove : s.pendingMove = none) :
    Stays s (s.sendReliable channels event).1 := by
  unfold sendReliable
  by_cases hfailed : s.reliableFailed = true
  · rw [if_pos hfailed]
    exact ⟨.refl s, fun hrunning => absurd (hfailed.symm.trans hrunning) nofun⟩
  rw [if_neg hfailed]
  rw [Bool.not_eq_true] at hfailed
  split_ifs
  · exact abort_stays s
  · have hqueued : Quieted (s.enqueueReliable event) := by
      refine ⟨?_, (hends hfailed).2, fun task htask => ?_, hmove⟩
      · have hstream : (s.enqueueReliable event).stream = s.stream ++ [event] := by
          simp [stream, handedEvents, enqueueReliable]
        rw [hstream]
        exact (hends hfailed).1
      · rcases List.mem_append.mp htask with htask | htask
        · exact hqueue task htask
        · rw [List.mem_singleton.mp htask]
          exact hevent
    have hpumped := (pumpReliable_pumped channels (s.enqueueReliable event)).stays hqueued
    exact ⟨Silent.trans (.of_eq rfl rfl) hpumped.1, hpumped.2⟩

/-! ## The invariant of the release -/

/-- A release that counts as sent comes last, and a sender that blocks input has sent
one. -/
structure ReleaseSound (s : RemoteInputSender) : Prop where
  released : s.reliableFailed = false → s.releaseSent = true → Quieted s
  blocked : s.reliableFailed = false → s.suspended = true ∨ s.closed = true →
    s.releaseSent = true

theorem initial_releaseSound (encoder : InputEncoder) (sessionId : Bytes) :
    ReleaseSound (initial encoder sessionId) where
  released := nofun
  blocked := by simp [initial]

/-- Nothing has to be shown about a sender that has failed. -/
theorem ReleaseSound.of_failed {s : RemoteInputSender} (h : s.reliableFailed = true) :
    ReleaseSound s where
  released := fun hrunning => absurd (h.symm.trans hrunning) nofun
  blocked := fun hrunning => absurd (h.symm.trans hrunning) nofun

/-- Nothing has to be shown about an open sender whose release does not count. -/
theorem ReleaseSound.of_open {s : RemoteInputSender} (hsent : s.releaseSent = false)
    (hsuspended : s.suspended = false) (hclosed : s.closed = false) : ReleaseSound s where
  released := fun _ hreleased => absurd (hsent.symm.trans hreleased) nofun
  blocked := by simp [hsuspended, hclosed]

/-- Nothing else has to be shown about a sender that only ends with a release. -/
theorem ReleaseSound.of_quieted {s : RemoteInputSender}
    (h : s.reliableFailed = false → Quieted s ∧ s.releaseSent = true) : ReleaseSound s where
  released := fun hrunning _ => (h hrunning).1
  blocked := fun hrunning _ => (h hrunning).2

theorem abort_releaseSound (s : RemoteInputSender) : ReleaseSound s.abort :=
  .of_failed (abort_failed s)

theorem Pumped.releaseSound {s s' : RemoteInputSender} (h : Pumped s s') (hs : ReleaseSound s) :
    ReleaseSound s' where
  released := fun hrunning hsent => by
    obtain ⟨hbefore, hflags⟩ := h.flags hrunning
    simp only [releaseFlags, Prod.mk.injEq] at hflags
    exact (h.stays (hs.released hbefore (hflags.1 ▸ hsent))).2 hrunning
  blocked := fun hrunning hblocked => by
    obtain ⟨hbefore, hflags⟩ := h.flags hrunning
    simp only [releaseFlags, Prod.mk.injEq] at hflags
    obtain ⟨hsent, hsuspended, hclosed⟩ := hflags
    rw [hsuspended, hclosed] at hblocked
    exact hsent.trans (hs.blocked hbefore hblocked)

/-- Input that is accepted by an open sender. -/
theorem sendReliable_input {s : RemoteInputSender}
    (hsent : s.releaseSent = false) (hsuspended : s.suspended = false)
    (hclosed : s.closed = false) : ReleaseSound (s.sendReliable channels event).1 := by
  unfold sendReliable
  split_ifs with hfailed
  · exact .of_failed hfailed
  · exact abort_releaseSound s
  · exact (pumpReliable_pumped channels _).releaseSound (.of_open hsent hsuspended hclosed)

/-- A release or the end of the session, sent by a sender that counts its release as
sent. -/
theorem sendReliable_trailing {event : ReliableInputEvent} (hevent : Trailing event)
    {s : RemoteInputSender} (hsent : s.releaseSent = true)
    (hends : s.reliableFailed = false → EndsReleased (s.stream ++ [event]) ∧
      EndsReleased (s.accepted ++ [event]))
    (hqueue : ∀ task ∈ s.reliableQueue, Trailing task.event) (hmove : s.pendingMove = none) :
    ReleaseSound (s.sendReliable channels event).1 := by
  refine .of_quieted fun hrunning => ⟨?_, ?_⟩
  · exact (sendReliable_stays channels hevent hends hqueue hmove).2 hrunning
  · have hflags := (sendReliable_flags channels event hrunning).2
    simp only [releaseFlags, Prod.mk.injEq] at hflags
    exact hflags.1.trans hsent

/-- What the invariant of the release depends on. -/
def releaseState (s : RemoteInputSender) :=
  (s.reliableFailed, s.handedReliable, s.reliableQueue, s.accepted, s.pendingMove, s.releaseFlags)

theorem Quieted.of_eq {s s' : RemoteInputSender} (h : Quieted s)
    (hstate : s'.releaseState = s.releaseState) : Quieted s' := by
  simp only [releaseState, Prod.mk.injEq] at hstate
  obtain ⟨_, hhanded, hqueue, haccepted, hmove, _⟩ := hstate
  refine ⟨?_, haccepted ▸ h.accepted, hqueue ▸ h.queue, hmove.trans h.move⟩
  have hstream : s'.stream = s.stream := by rw [stream, handedEvents, hhanded, hqueue]; rfl
  rw [hstream]
  exact h.ends

theorem ReleaseSound.of_eq {s s' : RemoteInputSender} (h : ReleaseSound s)
    (hstate : s'.releaseState = s.releaseState) : ReleaseSound s' := by
  have hparts := hstate
  simp only [releaseState, releaseFlags, Prod.mk.injEq] at hparts
  obtain ⟨hfailed, _, _, _, _, hsent, hsuspended, hclosed⟩ := hparts
  refine ⟨fun hrunning hreleased => ?_, fun hrunning hblocked => ?_⟩
  · exact (h.released (hfailed ▸ hrunning) (hsent ▸ hreleased)).of_eq hstate
  · rw [hsuspended, hclosed] at hblocked
    exact hsent.trans (h.blocked (hfailed ▸ hrunning) hblocked)

theorem Quieted.dropPendingMove {s : RemoteInputSender} (h : Quieted s) :
    Quieted s.dropPendingMove :=
  ⟨h.ends, h.accepted, h.queue, rfl⟩

theorem ReleaseSound.dropPendingMove {s : RemoteInputSender} (h : ReleaseSound s) :
    ReleaseSound s.dropPendingMove :=
  ⟨fun hrunning hsent => (h.released hrunning hsent).dropPendingMove, h.blocked⟩

/-- A release that survives the cancellation of the queue has been handed over. -/
theorem cancelQueuedReliable_ends {s : RemoteInputSender} (h : EndsReleased s.stream)
    (hsent : s.cancelQueuedReliable.releaseSent = true) : EndsReleased s.handedEvents := by
  refine EndsReleased.of_append h fun hmem => ?_
  obtain ⟨task, htask, hevent⟩ := List.mem_map.mp hmem
  have hnone : ¬ (s.reliableQueue.any (·.releasesInput)) = true := by
    simp only [cancelQueuedReliable, Bool.and_eq_true, Bool.not_eq_true'] at hsent
    simp [hsent.2]
  exact hnone (List.any_eq_true.mpr
    ⟨task, htask, by simp [ReliableInputTask.releasesInput, hevent]⟩)

/-! ## Releases, suspension and end -/

theorem releaseAll_releaseSound {s : RemoteInputSender}
    (h : s.closed = true ∨ s.releaseSent = true → ReleaseSound s) :
    ReleaseSound (s.releaseAll channels).1 := by
  unfold releaseAll
  split_ifs with hdone
  · exact h hdone
  · exact sendReliable_trailing channels (.inl rfl) rfl (fun _ => ⟨.release _, .release _⟩)
      nofun rfl

theorem suspend_releaseSound {s : RemoteInputSender} (h : ReleaseSound s) :
    ReleaseSound (s.suspend channels).1 := by
  unfold suspend
  split_ifs with hdone
  · exact h
  · refine releaseAll_releaseSound channels fun hreleased => .of_quieted fun hrunning => ?_
    have hsent : s.releaseSent = true :=
      hreleased.resolve_left fun hclosed => hdone (.inl hclosed)
    obtain ⟨hends, haccepted, hqueue, _⟩ := h.released hrunning hsent
    exact ⟨⟨hends, haccepted, hqueue, rfl⟩, hsent⟩

theorem awaitClose_releaseSound (progress : Nat → CloseProgress)
    {result : RemoteInputSender × SenderFuture} (h : ReleaseSound result.1) :
    ReleaseSound (awaitClose progress result) := by
  unfold awaitClose
  split <;> exact h.of_eq rfl

theorem sendClose_releaseSound {s : RemoteInputSender}
    (h : s.reliableFailed = false → s.releaseSent = true ∧ Quieted s) :
    ReleaseSound (s.sendClose channels) := by
  refine awaitClose_releaseSound .controlling ?_
  by_cases hfailed : s.reliableFailed = true
  · rw [sendReliable, if_pos hfailed]
    exact .of_failed hfailed
  · rw [Bool.not_eq_true] at hfailed
    obtain ⟨hsent, hends, haccepted, hqueue, hmove⟩ := h hfailed
    exact sendReliable_trailing channels (.inr rfl) hsent
      (fun _ => ⟨hends.close, haccepted.close⟩) hqueue hmove

theorem close_releaseSound {s : RemoteInputSender} (h : ReleaseSound s) :
    ReleaseSound (s.close channels).1 := by
  unfold close
  split_ifs
  · exact h
  · dsimp only
    split_ifs with hfailed hsent
    · exact .of_failed hfailed
    · refine sendClose_releaseSound channels fun hrunning => ⟨hsent, ?_⟩
      have hbefore : s.releaseSent = true := by
        simp only [dropPendingMove, cancelQueuedReliable, Bool.and_eq_true] at hsent
        exact hsent.1
      have hquieted := h.released hrunning hbefore
      refine ⟨?_, hquieted.accepted, (by intros; contradiction), rfl⟩
      have hends := cancelQueuedReliable_ends hquieted.ends hsent
      simpa [stream, handedEvents, cancelQueuedReliable, dropPendingMove, failReliableTasks]
        using hends
    · refine awaitClose_releaseSound .releasing ?_
      exact sendReliable_trailing channels (.inl rfl) rfl (fun _ => ⟨.release _, .release _⟩)
        (by intros; contradiction) rfl

theorem continueClose_releaseSound {s : RemoteInputSender} (h : ReleaseSound s)
    (hclosing : CloseSound s) : ReleaseSound (s.continueClose channels) := by
  unfold continueClose
  split
  · rename_i id hprogress
    have hclosed : s.closed = true := hclosing.called.mpr (by simp [hprogress])
    split
    · exact h
    · refine sendClose_releaseSound channels fun hrunning => ?_
      have hsent := h.blocked hrunning (.inr hclosed)
      exact ⟨hsent, h.released hrunning hsent⟩
    · exact h.of_eq rfl
  · split
    · exact h
    · exact h.of_eq rfl
  · exact h

/-! ## Every action keeps the invariant -/

theorem schedulePendingPointerMove_releaseSound {s : RemoteInputSender} (h : ReleaseSound s) :
    ReleaseSound s.schedulePendingPointerMove := by
  unfold schedulePendingPointerMove
  split_ifs
  · exact h
  · exact h.of_eq rfl

theorem sendFastBestEffort_releaseSound (event : PointerFastEvent) {s : RemoteInputSender}
    (h : ReleaseSound s) : ReleaseSound (s.sendFastBestEffort channels event).1 := by
  unfold sendFastBestEffort
  split_ifs
  · exact h
  · split
    · exact h
    · split_ifs
      · exact h
      · exact h.of_eq rfl

theorem flushPointerMove_releaseSound {s : RemoteInputSender} (h : ReleaseSound s) :
    ReleaseSound (s.flushPointerMove channels) := by
  unfold flushPointerMove
  split
  · exact h.dropPendingMove
  · split_ifs
    · exact h.dropPendingMove
    · exact h.of_eq rfl
    · split
      · exact h.dropPendingMove
      · split_ifs
        · exact h.dropPendingMove.of_eq rfl
        · exact sendFastBestEffort_releaseSound channels _ h.dropPendingMove

theorem fastCompleted_releaseSound (sent : Bool) {s : RemoteInputSender} (h : ReleaseSound s) :
    ReleaseSound (s.fastCompleted sent) := by
  unfold fastCompleted
  split
  · exact h
  · have hended : ReleaseSound { s with
        fastSendInFlight := none, fastOutcomes := s.fastOutcomes ++ [sent] } := h.of_eq rfl
    have hscheduled := schedulePendingPointerMove_releaseSound hended
    dsimp only
    split
    · split_ifs
      · exact hscheduled
      · exact hscheduled.of_eq rfl
    · exact hscheduled

/-- Input that is taken up follows no release. -/
theorem Entered.releaseSound {channels : InputDataChannels} {action : SenderAction}
    {s : RemoteInputSender}
    {result : RemoteInputSender × SenderFuture} (hentered : Entered channels action s result)
    (h : ReleaseSound s) : ReleaseSound result.1 := by
  have hcleared : s.ensureOpen = .ok () → ReleaseSound s.clearRelease := fun hopen => by
    obtain ⟨hclosed, -, hsuspended⟩ := ensureOpen_eq_ok.mp hopen
    exact .of_open rfl hsuspended hclosed
  cases hentered with
  | refused => exact h
  | invalid hopen => exact hcleared hopen
  | reliable hopen event =>
    obtain ⟨hclosed, -, hsuspended⟩ := ensureOpen_eq_ok.mp hopen
    exact sendReliable_input channels event rfl hsuspended hclosed
  | fast hopen event => exact sendFastBestEffort_releaseSound channels event (hcleared hopen)
  | waiting hopen move =>
    obtain ⟨hclosed, -, hsuspended⟩ := ensureOpen_eq_ok.mp hopen
    exact schedulePendingPointerMove_releaseSound (.of_open rfl hsuspended hclosed)

variable (action : SenderAction)

/-- Every action keeps the release last. -/
theorem perform_releaseSound {s : RemoteInputSender} (h : ReleaseSound s)
    (hclosing : CloseSound s) : ReleaseSound (action.perform channels s).1 := by
  cases action with
  | pointerButton | pointerClick | keyboard | text | scroll | pointerMove =>
    exact (perform_entered channels (by rfl) s).releaseSound h
  | releaseAll => exact releaseAll_releaseSound channels fun _ => h
  | suspend => exact suspend_releaseSound channels h
  | resume =>
    change ReleaseSound s.resume.1
    unfold resume
    split_ifs
    · exact h
    · refine ⟨fun hrunning hsent => ?_, fun hrunning hblocked => ?_⟩
      · obtain ⟨hends, haccepted, hqueue, hmove⟩ := h.released hrunning hsent
        exact ⟨hends, haccepted, hqueue, hmove⟩
      · exact h.blocked hrunning (.inr (hblocked.resolve_left nofun))
  | close => exact close_releaseSound channels h
  | continueClose => exact continueClose_releaseSound channels h hclosing
  | sendCompleted id =>
    change ReleaseSound (s.sendCompleted channels id)
    unfold sendCompleted
    split
    · exact h
    · split_ifs
      · exact h
      · exact (pumpReliable_pumped channels _).releaseSound (h.of_eq rfl)
  | abort => exact abort_releaseSound s
  | retry =>
    change ReleaseSound (s.retry channels)
    unfold retry
    split_ifs
    · exact (pumpReliable_pumped channels _).releaseSound (h.of_eq rfl)
    · exact h
  | bufferedAmountRead result =>
    change ReleaseSound (s.bufferedAmountRead channels result)
    unfold bufferedAmountRead
    split_ifs
    · split
      · exact (dispatchReliable_pumped channels _ _).releaseSound (h.of_eq rfl)
      · exact abort_releaseSound _
    · exact h
  | timeout id =>
    change ReleaseSound (s.timeout id)
    unfold timeout
    split_ifs
    · exact abort_releaseSound _
    · exact h
  | frame => exact flushPointerMove_releaseSound channels h
  | fastCompleted sent => exact fastCompleted_releaseSound sent h

/-! ## Steps without new input -/

theorem Stays.of_eq {s s' : RemoteInputSender} (h : Quieted s)
    (hstate : s'.releaseState = s.releaseState) (hfast : s'.handedFast = s.handedFast) :
    Stays s s' := by
  have hparts := hstate
  simp only [releaseState, Prod.mk.injEq] at hparts
  exact ⟨.of_eq hparts.2.1 hfast, fun _ => h.of_eq hstate⟩

theorem Stays.after {s s' s'' : RemoteInputSender} (h : Silent s s') (h' : Stays s' s'') :
    Stays s s'' :=
  ⟨h.trans h'.1, h'.2⟩

/-- An event that is refused leaves the sender as it is, or ends it. -/
theorem sendReliable_refused {s : RemoteInputSender}
    {code : InputSenderErrorCode} (hrefused : (s.sendReliable channels event).2 = .failed code) :
    (s.sendReliable channels event).1 = s ∨ (s.sendReliable channels event).1 = s.abort := by
  revert hrefused
  unfold sendReliable
  split_ifs
  · exact fun _ => .inl rfl
  · exact fun _ => .inr rfl
  · exact nofun

theorem clearRelease_stays {s : RemoteInputSender} (h : Quieted s) : Stays s s.clearRelease :=
  ⟨.of_eq rfl rfl, fun _ => ⟨h.ends, h.accepted, h.queue, h.move⟩⟩

theorem sendReliable_refused_stays {s : RemoteInputSender}
    (h : Quieted s) {code : InputSenderErrorCode}
    (hrefused : (s.clearRelease.sendReliable channels event).2 = .failed code) :
    Stays s (s.clearRelease.sendReliable channels event).1 := by
  rcases sendReliable_refused channels event hrefused with hsame | habort
  · rw [hsame]
    exact clearRelease_stays h
  · rw [habort]
    exact .after (.of_eq rfl rfl) (abort_stays _)

/-- Fast input is not refused after its checks. -/
theorem sendFastBestEffort_not_refused (event : PointerFastEvent) (s : RemoteInputSender)
    (code : InputSenderErrorCode) : (s.sendFastBestEffort channels event).2 ≠ .failed code := by
  unfold sendFastBestEffort
  split_ifs
  · exact nofun
  · split
    · exact nofun
    · split_ifs <;> exact nofun

/-- Input that is refused leaves a sender whose release comes last. -/
theorem Entered.stays {channels : InputDataChannels} {action : SenderAction}
    {s : RemoteInputSender}
    {result : RemoteInputSender × SenderFuture} (hentered : Entered channels action s result)
    (h : Quieted s) {code : InputSenderErrorCode} (hrefused : result.2 = .failed code) :
    Stays s result.1 := by
  cases hentered with
  | refused => exact ⟨.refl s, fun _ => h⟩
  | invalid => exact clearRelease_stays h
  | reliable hopen event => exact sendReliable_refused_stays channels event h hrefused
  | fast hopen event =>
    exact absurd hrefused (sendFastBestEffort_not_refused channels event _ code)
  | waiting => cases hrefused

/-- Input that is refused changes nothing that matters. -/
theorem perform_refused (hinput : action.isInput = true)
    {s : RemoteInputSender} (h : Quieted s) {code : InputSenderErrorCode}
    (hrefused : (action.perform channels s).2 = .failed code) :
    Stays s (action.perform channels s).1 := by
  exact (perform_entered channels hinput s).stays h hrefused

theorem releaseAll_stays {s : RemoteInputSender} (h : Quieted s) :
    Stays s (s.releaseAll channels).1 := by
  unfold releaseAll
  split_ifs
  · exact ⟨.refl s, fun _ => h⟩
  · refine .after (.of_eq rfl rfl) ?_
    exact sendReliable_stays channels (.inl rfl) (fun _ => ⟨.release _, .release _⟩) nofun rfl

theorem awaitClose_stays (progress : Nat → CloseProgress) {s : RemoteInputSender}
    {result : RemoteInputSender × SenderFuture} (h : Stays s result.1) :
    Stays s (awaitClose progress result) := by
  have hawaited : (awaitClose progress result).releaseState = result.1.releaseState ∧
      (awaitClose progress result).handedFast = result.1.handedFast := by
    unfold awaitClose
    split <;> exact ⟨rfl, rfl⟩
  have hparts := hawaited.1
  simp only [releaseState, Prod.mk.injEq] at hparts
  refine ⟨h.1.trans (.of_eq hparts.2.1 hawaited.2), fun hrunning => ?_⟩
  exact (h.2 (hparts.1 ▸ hrunning)).of_eq hawaited.1

theorem sendClose_stays {s : RemoteInputSender} (h : Quieted s) : Stays s (s.sendClose channels) :=
  awaitClose_stays .controlling
    (sendReliable_stays channels (.inr rfl) (fun _ => ⟨h.ends.close, h.accepted.close⟩)
      h.queue h.move)

theorem close_stays {s : RemoteInputSender} (h : Quieted s) : Stays s (s.close channels).1 := by
  unfold close
  split_ifs
  · exact ⟨.refl s, fun _ => h⟩
  · dsimp only
    split_ifs with hfailed hsent
    · refine ⟨.of_eq rfl rfl, fun hrunning => ?_⟩
      cases hfailed.symm.trans hrunning
    · refine .after (.of_eq rfl rfl)
        (sendClose_stays channels ⟨?_, h.accepted, by intros; contradiction, rfl⟩)
      have hends := cancelQueuedReliable_ends h.ends hsent
      simpa [stream, handedEvents, cancelQueuedReliable, dropPendingMove, failReliableTasks]
        using hends
    · refine .after (.of_eq rfl rfl) (awaitClose_stays .releasing ?_)
      exact sendReliable_stays channels (.inl rfl) (fun _ => ⟨.release _, .release _⟩)
        (by intros; contradiction) rfl

theorem continueClose_stays {s : RemoteInputSender} (h : Quieted s) :
    Stays s (s.continueClose channels) := by
  unfold continueClose
  split
  · split
    · exact ⟨.refl s, fun _ => h⟩
    · exact sendClose_stays channels h
    · exact .of_eq h rfl rfl
  · split
    · exact ⟨.refl s, fun _ => h⟩
    · exact .of_eq h rfl rfl
  · exact ⟨.refl s, fun _ => h⟩

theorem schedulePendingPointerMove_stays {s : RemoteInputSender} (h : Quieted s) :
    Stays s s.schedulePendingPointerMove := by
  unfold schedulePendingPointerMove
  split_ifs
  · exact ⟨.refl s, fun _ => h⟩
  · exact .of_eq h rfl rfl

theorem fastCompleted_stays (sent : Bool) {s : RemoteInputSender} (h : Quieted s) :
    Stays s (s.fastCompleted sent) := by
  unfold fastCompleted
  split
  · exact ⟨.refl s, fun _ => h⟩
  · have hended : Quieted { s with
        fastSendInFlight := none, fastOutcomes := s.fastOutcomes ++ [sent] } := h.of_eq rfl
    have hscheduled : Stays s (schedulePendingPointerMove { s with
        fastSendInFlight := none, fastOutcomes := s.fastOutcomes ++ [sent] }) :=
      .after (.of_eq rfl rfl) (schedulePendingPointerMove_stays hended)
    dsimp only
    split
    · split_ifs
      · exact hscheduled
      · exact ⟨hscheduled.1, fun hrunning => (hscheduled.2 hrunning).of_eq rfl⟩
    · exact hscheduled

/-- A step without new input hands over nothing but releases and the end of the session. -/
theorem perform_quieted {s : RemoteInputSender} (h : Quieted s)
    (hquiet : action.isInput = true → ∃ code, (action.perform channels s).2 = .failed code) :
    Stays s (action.perform channels s).1 := by
  by_cases hinput : action.isInput = true
  · obtain ⟨code, hrefused⟩ := hquiet hinput
    exact perform_refused channels action hinput h hrefused
  cases action with
  | releaseAll => exact releaseAll_stays channels h
  | suspend =>
    change Stays s (s.suspend channels).1
    unfold suspend
    split_ifs
    · exact ⟨.refl s, fun _ => h⟩
    · exact .after (.of_eq rfl rfl) (releaseAll_stays channels ⟨h.ends, h.accepted, h.queue, rfl⟩)
  | resume =>
    change Stays s s.resume.1
    unfold resume
    split_ifs
    · exact ⟨.refl s, fun _ => h⟩
    · exact ⟨.of_eq rfl rfl, fun _ => ⟨h.ends, h.accepted, h.queue, h.move⟩⟩
  | close => exact close_stays channels h
  | continueClose => exact continueClose_stays channels h
  | sendCompleted id =>
    change Stays s (s.sendCompleted channels id)
    unfold sendCompleted
    split
    · exact ⟨.refl s, fun _ => h⟩
    · split_ifs
      · exact ⟨.refl s, fun _ => h⟩
      · exact .after (.of_eq rfl rfl) ((pumpReliable_pumped channels _).stays (h.of_eq rfl))
  | abort => exact abort_stays s
  | retry =>
    change Stays s (s.retry channels)
    unfold retry
    split_ifs
    · exact .after (.of_eq rfl rfl) ((pumpReliable_pumped channels _).stays (h.of_eq rfl))
    · exact ⟨.refl s, fun _ => h⟩
  | bufferedAmountRead result =>
    change Stays s (s.bufferedAmountRead channels result)
    unfold bufferedAmountRead
    split_ifs
    · split
      · exact .after (.of_eq rfl rfl) ((dispatchReliable_pumped channels _ _).stays (h.of_eq rfl))
      · exact .after (.of_eq rfl rfl) (abort_stays _)
    · exact ⟨.refl s, fun _ => h⟩
  | timeout id =>
    change Stays s (s.timeout id)
    unfold timeout
    split_ifs
    · exact .after (.of_eq rfl rfl) (abort_stays _)
    · exact ⟨.refl s, fun _ => h⟩
  | frame =>
    change Stays s (s.flushPointerMove channels)
    unfold flushPointerMove
    rw [h.move]
    exact ⟨.of_eq rfl rfl, fun _ => h.dropPendingMove⟩
  | fastCompleted sent => exact fastCompleted_stays sent h
  | _ => exact absurd rfl hinput

/-! ## Runs -/

/-- New input has been accepted. -/
def NewInput
    (e : Occurrence RemoteInputSender (InputDataChannels × SenderAction) SenderFuture) : Prop :=
  e.input.2.isInput = true ∧ ∀ code, e.output ≠ .failed code

/-- After a release, without new input, only releases and the end of the session are
handed over. -/
theorem run_quieted {s : RemoteInputSender} (hsound : SenderSound s) (h : Quieted s)
    {later : List (InputDataChannels × SenderAction)}
    (hquiet : ∀ e ∈ senderMachine.trace s later, ¬ NewInput e) :
    Stays s (senderMachine.run s later) := by
  induction later using List.reverseRecOn with
  | nil => exact ⟨.refl s, fun _ => h⟩
  | append_singleton later input ih =>
    rw [senderMachine.trace_snoc] at hquiet
    have hbefore := ih fun e he => hquiet e (List.mem_append_left _ he)
    have hlast := hquiet (senderMachine.occurrence (senderMachine.run s later) input) (by simp)
    rw [senderMachine.run_snoc]
    by_cases hfailed : (senderMachine.run s later).reliableFailed = true
    · have hrun := run_senderSound hsound later
      have hended := (perform_frame input.1 input.2 _).ended hfailed (hrun.queue.ended hfailed).2.1
      refine ⟨hbefore.1.trans (.of_eq hended.2.2.1 hended.2.2.2), fun hrunning => ?_⟩
      exact absurd (hended.1.symm.trans hrunning) nofun
    · rw [Bool.not_eq_true] at hfailed
      refine .after hbefore.1 (perform_quieted input.1 input.2 (hbefore.2 hfailed) ?_)
      intro hinput
      by_contra haccepted
      exact hlast ⟨hinput, fun code hcode => haccepted ⟨code, hcode⟩⟩

theorem run_releaseSound (encoder : InputEncoder) (sessionId : Bytes)
    (inputs : List (InputDataChannels × SenderAction)) :
    SenderSound (senderMachine.run (initial encoder sessionId) inputs) ∧
      ReleaseSound (senderMachine.run (initial encoder sessionId) inputs) := by
  refine senderMachine.run_invariant (fun s => SenderSound s ∧ ReleaseSound s) ?_
    ⟨initial_senderSound encoder sessionId, initial_releaseSound encoder sessionId⟩
    (senderMachine.guarded_true _ inputs)
  rintro s input ⟨hsound, hrelease⟩ -
  exact ⟨step_senderSound hsound input,
    perform_releaseSound input.1 input.2 hrelease hsound.closing⟩

theorem releaseAll_sent {s : RemoteInputSender}
    (hclosed : s.closed = true → s.reliableFailed = false → s.releaseSent = true)
    (hrunning : (s.releaseAll channels).1.reliableFailed = false) :
    (s.releaseAll channels).1.releaseSent = true := by
  revert hrunning
  unfold releaseAll
  split_ifs with hdone
  · exact fun hrunning => hdone.elim (fun hc => hclosed hc hrunning) id
  · intro hrunning
    have hflags := (sendReliable_flags channels .releaseAllInput hrunning).2
    simp only [releaseFlags, Prod.mk.injEq] at hflags
    exact hflags.1

/-- A release, a suspension and the end leave the sender quiet. -/
theorem perform_releases {s : RemoteInputSender} (hsound : SenderSound s) (h : ReleaseSound s)
    {action : SenderAction} (haction : action = .releaseAll ∨ action = .suspend ∨ action = .close)
    (hrunning : (action.perform channels s).1.reliableFailed = false) :
    Quieted (action.perform channels s).1 := by
  have hafter := perform_releaseSound channels action h hsound.closing
  refine hafter.released hrunning ?_
  rcases haction with rfl | rfl | rfl
  · exact releaseAll_sent channels (fun hclosed hbefore => h.blocked hbefore (.inr hclosed))
      hrunning
  · revert hrunning
    change (s.suspend channels).1.reliableFailed = false → (s.suspend channels).1.releaseSent = true
    unfold suspend
    split_ifs with hdone
    · exact fun hrunning => h.blocked hrunning hdone.symm
    · exact releaseAll_sent channels fun hclosed => absurd (.inl hclosed) hdone
  · exact hafter.blocked hrunning (.inr (close_closed channels s))

/-- **The release comes last.**  While the sender has not failed, a release that counts as
sent comes last in what has been handed over and queued, and so it does after every
release, suspension and end.  From then on, until new input is accepted, nothing but
releases and the end of the session is handed to either channel. -/
theorem release_comes_last (encoder : InputEncoder) (sessionId : Bytes)
    (inputs : List (InputDataChannels × SenderAction)) :
    let s := senderMachine.run (initial encoder sessionId) inputs
    (s.reliableFailed = false → s.releaseSent = true → EndsReleased s.stream) ∧
      ∀ channels (action : SenderAction),
        action = .releaseAll ∨ action = .suspend ∨ action = .close →
        let s' := (action.perform channels s).1
        s'.reliableFailed = false → EndsReleased s'.stream ∧
          ∀ later, (∀ e ∈ senderMachine.trace s' later, ¬ NewInput e) →
            let s'' := senderMachine.run s' later
            Silent s' s'' ∧ (s''.reliableFailed = false → EndsReleased s''.stream) := by
  intro s
  obtain ⟨hsound, hrelease⟩ := run_releaseSound encoder sessionId inputs
  refine ⟨fun hrunning hsent => (hrelease.released hrunning hsent).ends, ?_⟩
  intro channels action haction s' hrunning
  have hquieted : Quieted s' := perform_releases channels hsound hrelease haction hrunning
  refine ⟨hquieted.ends, fun later hquiet => ?_⟩
  have hsound' : SenderSound s' := step_senderSound hsound (channels, action)
  have hstays := run_quieted hsound' hquieted hquiet
  exact ⟨hstays.1, fun hstill => (hstays.2 hstill).ends⟩

end RemoteInputSender

end Client

end Roammand
