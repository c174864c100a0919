import Roammand.Client.RemoteDesktop

/-!
# Sections of the controller and the reconnect schedule

The present sequence of a controller stands at a place of its course.  A section of an operation,
the code between two places where it awaits something, leaves the schedule as it is, ends the
sequence, or sets the timer that drives it on.  Each function of the controller is looked at once.

Main results:

- Definition `RemoteDesktopController.Driven`: what drives a sequence on at each of its places.
- Definition `RemoteDesktopController.Outcome`: what a section does to the schedule.
- Theorems `scheduleReconnect_outcome`, `finishReconnectAttempt_outcome` and `handleRouted_section`:
  the sections of the recovery and of what the Host sends.
-/

namespace Roammand

namespace Client

open Library Protocol ReconnectAttemptSequence Option

/-- What is thrown was not thrown because the operation was overtaken. -/
def notCancelled (exception : Option RemoteException) : Bool :=
  decide (exception ≠ some .operationCancelled)

/-- The point is one of an attempt that is neither overtaken nor given up. -/
def RemotePoint.isAttempt : RemotePoint → Bool
  | .recoverSignaling | .restartIce | .signOffer _ _ | .validateSignature _ _ _ _ => true
  | .relayOffer _ _ refused | .relayDescription refused | .relayCandidates refused _ =>
    notCancelled refused
  | .offerReturned exception => notCancelled exception
  | .openIdentity | .connectSignaling | .startPeer | .verifyAnswer _ _ _ | .applyAnswer _
  | .answerReturned _ | .addCandidate | .relayCandidate _ | .suspend | .failing | .closing
  | .teardown _ => false

namespace RemoteDesktopController

open ReconnectAttemptSequence (Place standing ticketAfter Ended)

variable {s s' s'' : RemoteDesktopController} {sequence : Nat} {place : Place}

/-! ## The place of the present sequence -/

/-- The timer that is set at a place. -/
def timerAt (sequence : Nat) : Place → Option ReconnectTimer
  | .pending attempts => some (.attempt (ticketAfter sequence attempts))
  | .grace => some (.expiry sequence (ticketAfter sequence 4))
  | .between _ | .inFlight _ => none

/-- The present sequence stands at a place, and the session is open. -/
structure Recovers (sequence : Nat) (place : Place) (s : RemoteDesktopController) : Prop where
  present : s.reconnectSequence = some sequence
  made : sequence < s.nextSequence
  valid : place.Valid
  standing : s.sequences sequence = standing sequence place
  timer : s.reconnectTimer = timerAt sequence place
  opened : s.resourcesClosed = false
  kept : s.disposed = false
  showing : s.isOver = false

/-- The sequences of a controller and its operations. -/
structure Orderly (s : RemoteDesktopController) : Prop where
  allocated : ∀ i, s.nextProcess ≤ i → s.processes i = none
  fresh : ∀ q, s.nextSequence ≤ q → s.sequences q = start q
  ended : ∀ q < s.nextSequence, s.reconnectSequence ≠ some q → (s.sequences q).Ended
  closing : s.resourceCloseFuture.isSome = true → s.resourcesClosed = true
  closed : s.closeFuture = true → s.resourcesClosed = true
  waiting : s.reconnectSequence = none → s.reconnectTimer = none
  tearing : ∀ i process step, s.processes i = some process → process.point = .teardown step →
    s.resourcesClosed = true
  recovers : ∀ q, s.reconnectSequence = some q → ∃ place, Recovers q place s

/-- The operation drives a sequence on at a place: it is the attempt that is going on, or the
suspension of input with which the recovery starts. -/
def Drives (generation sequence : Nat) (process : RemoteProcess) : Place → Prop
  | .inFlight attempts =>
    process.operation = .attempt sequence (ticketAfter sequence attempts) ∧
      process.operationGeneration = generation ∧ process.point.isAttempt = true
  | .between attempts =>
    attempts = 0 ∧ process.operationGeneration = generation ∧ process.point = .suspend
  | .pending _ | .grace => False

/-- What drives a sequence on at a place: the timer, or an operation. -/
def Driven (s : RemoteDesktopController) (sequence : Nat) (place : Place) : Prop :=
  (timerAt sequence place).isSome = true ∨
    ∃ i process, s.processes i = some process ∧ Drives s.operationGeneration sequence process place

/-- The present sequence, if there is one, is driven on. -/
structure Scheduled (s : RemoteDesktopController) : Prop where
  orderly : Orderly s
  driven : ∀ q place, Recovers q place s → Driven s q place

/-! ## What a section does -/

/-- Sequences other than the present one stay as they are, and numbers are not used twice. -/
structure Kept (s s' : RemoteDesktopController) : Prop where
  grown : s.nextProcess ≤ s'.nextProcess
  made : s.nextSequence ≤ s'.nextSequence
  closed : s.resourcesClosed = true → s'.resourcesClosed = true
  others : ∀ q < s.nextSequence, s.reconnectSequence ≠ some q → s'.sequences q = s.sequences q

/-- The section does not touch the schedule. -/
structure Stays (s s' : RemoteDesktopController) : Prop where
  sequence : s'.reconnectSequence = s.reconnectSequence
  timer : s'.reconnectTimer = s.reconnectTimer
  sequences : s'.sequences = s.sequences
  nextSequence : s'.nextSequence = s.nextSequence
  processes : s'.processes = s.processes
  nextProcess : s'.nextProcess = s.nextProcess
  generation : s'.operationGeneration = s.operationGeneration
  resourcesClosed : s'.resourcesClosed = s.resourcesClosed
  resourceCloseFuture : s'.resourceCloseFuture.isSome = true → s.resourcesClosed = true
  closeFuture : s'.closeFuture = s.closeFuture
  disposed : s'.disposed = s.disposed
  showing : s.reconnectSequence.isSome = true → s.isOver = false → s'.isOver = false

/-- After the section no sequence is going on. -/
structure Settled (s s' : RemoteDesktopController) : Prop where
  orderly : Orderly s'
  sequence : s'.reconnectSequence = none
  kept : Kept s s'

/-- After the section the timer drives the present sequence on. -/
structure Timed (s s' : RemoteDesktopController) : Prop where
  orderly : Orderly s'
  timer : s'.reconnectTimer.isSome = true
  processes : s'.processes = s.processes
  kept : Kept s s'

/-- What a section does to the schedule. -/
inductive Outcome (s s' : RemoteDesktopController) : Prop where
  | stays (h : Stays s s')
  | settled (h : Settled s s')
  | timed (h : Timed s s')

theorem Kept.refl (s : RemoteDesktopController) : Kept s s :=
  ⟨le_rfl, le_rfl, id, fun _ _ _ => rfl⟩

theorem Stays.refl (h : Orderly s) : Stays s s :=
  ⟨rfl, rfl, rfl, rfl, rfl, rfl, rfl, rfl, h.closing, rfl, rfl, fun _ => id⟩

theorem Stays.kept (h : Stays s s') : Kept s s' :=
  ⟨le_of_eq h.nextProcess.symm, le_of_eq h.nextSequence.symm,
    fun hclosed => h.resourcesClosed.trans hclosed, fun q _ _ => by rw [h.sequences]⟩

/-- What is kept after a section that does not touch the schedule. -/
theorem Stays.kept_trans (hstays : Stays s s') (hkept : Kept s' s'') : Kept s s'' where
  grown := hstays.nextProcess ▸ hkept.grown
  made := hstays.nextSequence ▸ hkept.made
  closed hclosed := hkept.closed (hstays.resourcesClosed.trans hclosed)
  others q hq hother := by
    rw [hkept.others q (hstays.nextSequence.symm ▸ hq) (hstays.sequence.symm ▸ hother),
      hstays.sequences]

theorem Outcome.kept (h : Outcome s s') : Kept s s' := by
  cases h with
  | stays h => exact h.kept
  | settled h => exact h.kept
  | timed h => exact h.kept

theorem Recovers.isSome (h : Recovers sequence place s) : s.reconnectSequence.isSome = true := by
  rw [h.present]
  rfl

theorem Stays.recovers (hstays : Stays s s') (h : Recovers sequence place s) :
    Recovers sequence place s' where
  present := hstays.sequence.trans h.present
  made := by
    rw [hstays.nextSequence]
    exact h.made
  valid := h.valid
  standing := by
    rw [hstays.sequences]
    exact h.standing
  timer := hstays.timer.trans h.timer
  opened := hstays.resourcesClosed.trans h.opened
  kept := hstays.disposed.trans h.kept
  showing := hstays.showing h.isSome h.showing

theorem Stays.orderly (hstays : Stays s s') (h : Orderly s) : Orderly s' where
  allocated i hi := by
    rw [hstays.nextProcess] at hi
    rw [hstays.processes]
    exact h.allocated i hi
  fresh q hq := by
    rw [hstays.nextSequence] at hq
    rw [hstays.sequences]
    exact h.fresh q hq
  ended q hq hother := by
    rw [hstays.nextSequence] at hq
    rw [hstays.sequence] at hother
    rw [hstays.sequences]
    exact h.ended q hq hother
  closing hclosing := hstays.resourcesClosed.trans (hstays.resourceCloseFuture hclosing)
  closed hclosed := hstays.resourcesClosed.trans (h.closed (hstays.closeFuture ▸ hclosed))
  waiting hnone := hstays.timer.trans (h.waiting (hstays.sequence ▸ hnone))
  tearing i process step hprocess hpoint := by
    rw [hstays.processes] at hprocess
    exact hstays.resourcesClosed.trans (h.tearing i process step hprocess hpoint)
  recovers q hq := by
    rw [hstays.sequence] at hq
    obtain ⟨place, hplace⟩ := h.recovers q hq
    exact ⟨place, hstays.recovers hplace⟩

variable {place' : Place}

/-- Where a sequence stands is one place. -/
theorem standing_injective (hvalid : place.Valid) (hvalid' : place'.Valid)
    (h : standing sequence place = standing sequence place') : place = place' := by
  have hlength := congrArg (fun q => q.journal.length) h
  simp only [standing, List.length_take] at hlength
  have hcourse : course.length = 17 := rfl
  have h16 := hvalid.position_le
  have h16' := hvalid'.position_le
  have hposition : place.position = place'.position := by omega
  cases place <;> cases place' <;> simp only [Place.position, Place.Valid] at * <;>
    first | omega | (congr 1; omega)

theorem Recovers.place_eq (h : Recovers sequence place s)
    (h' : Recovers sequence place' s) : place = place' :=
  standing_injective h.valid h'.valid (h.standing.symm.trans h'.standing)

theorem Recovers.sequence_eq {sequence' : Nat} (h : Recovers sequence place s)
    (hsequence : s.reconnectSequence = some sequence') : sequence = sequence' :=
  some.inj (h.present.symm.trans hsequence)

/-- The present sequence is active, so one that has ended is not the present one. -/
theorem Orderly.not_present (h : Orderly s) {q : Nat} (hended : (s.sequences q).active = false) :
    s.reconnectSequence ≠ some q := by
  intro hpresent
  obtain ⟨place, hplace⟩ := h.recovers q hpresent
  rw [hplace.standing] at hended
  cases hended

/-! ### The end of a session -/

theorem isOver_iff : s.isOver = true ↔ s.state = .failed ∨ s.state = .closing ∨ s.state = .idle :=
  decide_eq_true_iff

/-- A session without a present sequence stays orderly when nothing of the schedule changes. -/
theorem Orderly.of_none (h : Orderly s) (hnone : s.reconnectSequence = none)
    (hsequence : s'.reconnectSequence = none) (htimer : s'.reconnectTimer = s.reconnectTimer)
    (hsequences : s'.sequences = s.sequences) (hnext : s'.nextSequence = s.nextSequence)
    (hprocesses : ∀ i, s'.nextProcess ≤ i → s'.processes i = none)
    (hgrown : s.nextProcess ≤ s'.nextProcess)
    (hclosing : s'.resourceCloseFuture.isSome = true → s'.resourcesClosed = true)
    (hclosed : s'.closeFuture = true → s'.resourcesClosed = true)
    (htearing : ∀ i process step, s'.processes i = some process →
      process.point = .teardown step → s'.resourcesClosed = true)
    (hopened : s.resourcesClosed = true → s'.resourcesClosed = true) : Settled s s' where
  orderly :=
    { allocated := hprocesses
      fresh := fun q hq => by
        rw [hnext] at hq
        rw [hsequences]
        exact h.fresh q hq
      ended := fun q hq _ => by
        rw [hnext] at hq
        rw [hsequences]
        refine h.ended q hq ?_
        rw [hnone]
        exact (some_ne_none q).symm
      closing := hclosing
      closed := hclosed
      waiting := fun _ => htimer.trans (h.waiting hnone)
      tearing := htearing
      recovers := fun q hq => absurd (hsequence.symm.trans hq) (some_ne_none q).symm }
  sequence := hsequence
  kept := ⟨hgrown, le_of_eq hnext.symm, hopened, fun q _ _ => by rw [hsequences]⟩

/-- An operation at a new number leaves the numbers that follow free. -/
theorem spawn_allocated (h : ∀ i, s.nextProcess ≤ i → s.processes i = none)
    (operation : RemoteOperation) (generation : Nat) (point : RemotePoint) :
    ∀ i, (s.spawn operation generation point).nextProcess ≤ i →
      (s.spawn operation generation point).processes i = none := by
  intro i hi
  have hlt : s.nextProcess < i := hi
  exact (Function.update_of_ne hlt.ne' _ _).trans (h i hlt.le)

/-- A new operation tears nothing down, unless the resources are being released. -/
theorem spawn_tearing
    (h : ∀ i process step, s.processes i = some process → process.point = .teardown step →
      s.resourcesClosed = true)
    (operation : RemoteOperation) (generation : Nat) {point : RemotePoint}
    (hpoint : ∀ step, point = .teardown step → s.resourcesClosed = true) :
    ∀ i process step, (s.spawn operation generation point).processes i = some process →
      process.point = .teardown step →
        (s.spawn operation generation point).resourcesClosed = true := by
  intro i process step hprocess hteardown
  rw [spawn_processes] at hprocess
  split_ifs at hprocess
  · rw [← some.inj hprocess] at hteardown
    exact hpoint step hteardown
  · exact h i process step hprocess hteardown

/-- The sequences and operations of a session that may be closed: whatever the present sequence
is, it has ended when it is cancelled. -/
structure Closable (s : RemoteDesktopController) : Prop where
  allocated : ∀ i, s.nextProcess ≤ i → s.processes i = none
  fresh : ∀ q, s.nextSequence ≤ q → s.reconnectSequence ≠ some q ∧
    s.sequences q = start q
  ended : ∀ q < s.nextSequence, s.reconnectSequence ≠ some q → (s.sequences q).Ended
  present : ∀ q, s.reconnectSequence = some q → (s.sequences q).cancel.Ended

theorem Orderly.closable (h : Orderly s) : Closable s where
  allocated := h.allocated
  fresh q hq := by
    refine ⟨fun hpresent => ?_, h.fresh q hq⟩
    obtain ⟨place, hplace⟩ := h.recovers q hpresent
    exact absurd hplace.made (not_lt.mpr hq)
  ended := h.ended
  present q hpresent := by
    obtain ⟨place, hplace⟩ := h.recovers q hpresent
    rw [hplace.standing]
    exact cancel_ended q hplace.valid

theorem startResourceClose_settled (h : Closable s) (notifyRemote : Bool) :
    Settled s (s.startResourceClose notifyRemote) := by
  have hsequences : ∀ q, (s.startResourceClose notifyRemote).sequences q =
      if s.reconnectSequence = some q then (s.sequences q).cancel else s.sequences q :=
    s.invalidated_apply .cancelled
  refine ⟨⟨?_, ?_, ?_, ?_, ?_, ?_, ?_, ?_⟩, rfl, Nat.le_succ _, le_rfl, fun _ => rfl,
    fun q _ hother => ?_⟩
  · exact spawn_allocated h.allocated _ _ _
  · intro q hq
    rw [hsequences, if_neg (h.fresh q hq).1, (h.fresh q hq).2]
  · intro q hq _
    rw [hsequences]
    split_ifs with hpresent
    · exact h.present q hpresent
    · exact h.ended q hq hpresent
  · exact fun _ => rfl
  · exact fun _ => rfl
  · exact fun _ => rfl
  · exact fun _ _ _ _ _ => rfl
  · exact fun q hq => absurd hq.symm (some_ne_none q)
  · rw [hsequences, if_neg hother]

theorem closeResources_cases (notifyRemote : Bool) (s : RemoteDesktopController) :
    (s.resourceCloseFuture.isSome = true ∧ s.closeResources notifyRemote = s) ∨
      s.closeResources notifyRemote = s.startResourceClose notifyRemote := by
  unfold closeResources
  split_ifs with hclosing
  · exact .inl ⟨hclosing, rfl⟩
  · exact .inr rfl

/-- Resources that are being released leave no present sequence. -/
theorem Orderly.none_of_closed (h : Orderly s) (hclosed : s.resourcesClosed = true) :
    s.reconnectSequence = none := by
  cases hpresent : s.reconnectSequence with
  | none => rfl
  | some q =>
    obtain ⟨place, hplace⟩ := h.recovers q hpresent
    rw [hplace.opened] at hclosed
    cases hclosed

theorem closeResources_settled (h : Orderly s) (notifyRemote : Bool) :
    Settled s (s.closeResources notifyRemote) := by
  rcases closeResources_cases notifyRemote s with ⟨hclosing, hsame⟩ | hstarted
  · rw [hsame]
    exact ⟨h, h.none_of_closed (h.closing hclosing), Kept.refl s⟩
  · rw [hstarted]
    exact startResourceClose_settled h.closable notifyRemote

/-- A session that is over has no present sequence. -/
theorem Orderly.none_of_over (h : Orderly s) (hover : s.isOver = true) :
    s.reconnectSequence = none := by
  cases hpresent : s.reconnectSequence with
  | none => rfl
  | some q =>
    obtain ⟨place, hplace⟩ := h.recovers q hpresent
    rw [hplace.showing] at hover
    cases hover

theorem Settled.of_stays (hstays : Stays s s') (hsettled : Settled s' s'') :
    Settled s s'' := ⟨hsettled.orderly, hsettled.sequence, by
  exact hstays.kept_trans hsettled.kept⟩

theorem fail_settled (h : Orderly s) (code : RemoteDesktopErrorCode) :
    Settled s (s.fail code).1 := by
  unfold fail
  split_ifs with hover
  · exact ⟨h, h.none_of_over hover, Kept.refl s⟩
  · have hstays : Stays s { s with errorCode := some code } :=
      ⟨rfl, rfl, rfl, rfl, rfl, rfl, rfl, rfl, h.closing, rfl, rfl, fun _ => id⟩
    exact .of_stays hstays (closeResources_settled (hstays.orderly h) true)

theorem call_settled (operation : RemoteOperation) (generation : Nat)
    {r : RemoteDesktopController × Option RemotePoint} (h : Settled s r.1)
    (hpoint : ∀ step, r.2 ≠ some (.teardown step)) :
    Settled s (call operation generation r) := by
  unfold call
  cases hcalled : r.2 with
  | none => exact h
  | some point =>
    obtain ⟨horderly, hsequence, hgrown, hmade, hclosed, hothers⟩ := h
    have hnone : Settled r.1 (r.1.spawn operation generation point) :=
      horderly.of_none hsequence hsequence rfl rfl rfl
        (spawn_allocated horderly.allocated _ _ _) (Nat.le_succ _) horderly.closing
        horderly.closed (spawn_tearing horderly.tearing _ _ fun step hstep => by
          rw [hstep] at hcalled
          exact absurd hcalled (hpoint step)) id
    exact ⟨hnone.orderly, hnone.sequence, hgrown.trans (Nat.le_succ _), hmade, hclosed, hothers⟩

/-- A failure that is awaited tears nothing down itself. -/
theorem fail_point (code : RemoteDesktopErrorCode) (s : RemoteDesktopController) :
    ∀ step, (s.fail code).2 ≠ some (.teardown step) := by
  intro step
  unfold fail
  split_ifs
  · exact (some_ne_none _).symm
  · rintro ⟨⟩

theorem failUnawaited_settled (h : Orderly s) (code : RemoteDesktopErrorCode) :
    Settled s (s.failUnawaited code) :=
  call_settled _ _ (fail_settled h code) (fail_point code s)

/-! ### Attempts follow one another -/

/-- The present sequence takes another place, at which the timer is as it should be. -/
theorem Orderly.moved (h : Orderly s) (hplace : Recovers sequence place s) (place' : Place)
    (s' : RemoteDesktopController) (hvalid : place'.Valid)
    (hsequences : s'.sequences =
      Function.update s.sequences sequence (standing sequence place'))
    (htimer : s'.reconnectTimer = timerAt sequence place')
    (hsequence : s'.reconnectSequence = s.reconnectSequence)
    (hnext : s'.nextSequence = s.nextSequence) (hprocesses : s'.processes = s.processes)
    (hnextProcess : s'.nextProcess = s.nextProcess)
    (hclosed : s'.resourcesClosed = s.resourcesClosed) (hdisposed : s'.disposed = s.disposed)
    (hfuture : s'.resourceCloseFuture = s.resourceCloseFuture)
    (hcloseFuture : s'.closeFuture = s.closeFuture) (hshowing : s'.isOver = false) :
    Orderly s' ∧ Recovers sequence place' s' ∧ Kept s s' := by
  have hrecovers : Recovers sequence place' s' :=
    ⟨hsequence.trans hplace.present, hnext ▸ hplace.made, hvalid, by
      rw [hsequences, Function.update_self], htimer, hclosed.trans hplace.opened,
      hdisposed.trans hplace.kept, hshowing⟩
  have hothers : ∀ q, q ≠ sequence → s'.sequences q = s.sequences q := by
    intro q hq
    rw [hsequences, Function.update_of_ne hq]
  refine ⟨⟨?_, ?_, ?_, ?_, ?_, ?_, ?_, ?_⟩, hrecovers, le_of_eq hnextProcess.symm,
    le_of_eq hnext.symm, fun hopen => hclosed.trans hopen,
    fun q _ hother => hothers q fun heq => hother ?_⟩
  · intro i hi
    rw [hnextProcess] at hi
    rw [hprocesses]
    exact h.allocated i hi
  · intro q hq
    rw [hnext] at hq
    have hne : q ≠ sequence := by
      have hmade := hplace.made
      omega
    rw [hothers q hne]
    exact h.fresh q hq
  · intro q hq hother
    rw [hnext] at hq
    rw [hsequence] at hother
    rw [hothers q fun heq => hother (heq ▸ hplace.present)]
    exact h.ended q hq hother
  · intro hclosing
    rw [hfuture] at hclosing
    rw [hclosed]
    exact h.closing hclosing
  · intro hclosing
    rw [hcloseFuture] at hclosing
    rw [hclosed]
    exact h.closed hclosing
  · intro hnone
    rw [hsequence, hplace.present] at hnone
    cases hnone
  · intro i process step hprocess hpoint
    rw [hprocesses] at hprocess
    exact hclosed.trans (h.tearing i process step hprocess hpoint)
  · intro q hq
    rw [hsequence, hplace.present] at hq
    rw [← some.inj hq]
    exact ⟨place', hrecovers⟩
  · rw [heq]
    exact hplace.present

/-- The present sequence stands further on its course than at a place. -/
def Further (s : RemoteDesktopController) (sequence : Nat) (place : Place) : Prop :=
  ∃ place', Recovers sequence place' s ∧ place.position < place'.position

/-- What has happened to a sequence since begins with an event. -/
def Records (s s' : RemoteDesktopController) (q : Nat) (event : ReconnectEvent) : Prop :=
  ∃ more, (s'.sequences q).journal = (s.sequences q).journal ++ event :: more

/-- A sequence that comes further has had what follows on its course. -/
theorem Further.records (hfurther : Further s' sequence place) (h : Recovers sequence place s)
    {event : ReconnectEvent}
    (hevent : course[place.position]? = some event) :
    Records s s' sequence event := by
  obtain ⟨place', hplace', hlt⟩ := hfurther
  obtain ⟨hposition, hevent⟩ := List.getElem?_eq_some_iff.mp hevent
  have hlength : place.position < (course.take place'.position).length := by
    rw [List.length_take]
    omega
  refine ⟨(course.take place'.position).drop (place.position + 1), ?_⟩
  rw [hplace'.standing, h.standing]
  have hsplit := List.take_append_drop place.position (course.take place'.position)
  rw [List.take_take, min_eq_left hlt.le, List.drop_eq_getElem_cons hlength, List.getElem_take,
    hevent] at hsplit
  exact hsplit.symm

/-- The next attempt of a sequence between two attempts is scheduled. -/
theorem scheduleReconnect_between (h : Orderly s) {attempts : Nat}
    (hplace : Recovers sequence (.between attempts) s) (hlt : attempts < 5) :
    Timed s s.scheduleReconnect ∧ Recovers sequence (.pending attempts) s.scheduleReconnect := by
  have hactive : ¬ ((s.sequences sequence).active = false ∨ s.reconnectTimer.isSome = true) := by
    rw [hplace.standing, hplace.timer]
    rintro (hinactive | htimer)
    · cases hinactive
    · cases htimer
  unfold scheduleReconnect
  rw [hplace.present]
  dsimp only
  rw [if_neg hactive, hplace.standing, scheduleNext_between _ hlt]
  obtain ⟨horderly, hpending, hkept⟩ := h.moved hplace
    (.pending attempts) (s.attemptScheduled sequence (standing sequence (.pending attempts))
      (ticketAfter sequence attempts)) hlt rfl rfl rfl rfl rfl rfl rfl rfl rfl rfl hplace.showing
  exact ⟨⟨horderly, rfl, rfl, hkept⟩, hpending⟩

/-- Scheduling does nothing where the sequence is driven on already, or where there is none. -/
theorem scheduleReconnect_outcome (h : Orderly s)
    (hbetween : ∀ q attempts, Recovers q (.between attempts) s → attempts < 5) :
    Outcome s s.scheduleReconnect := by
  cases hpresent : s.reconnectSequence with
  | none =>
    have hsame : s.scheduleReconnect = s := by
      unfold scheduleReconnect
      rw [hpresent]
    rw [hsame]
    exact .stays (.refl h)
  | some sequence =>
    obtain ⟨place, hplace⟩ := h.recovers sequence hpresent
    by_cases hplaced : ∃ attempts, place = .between attempts
    · obtain ⟨attempts, hattempts⟩ := hplaced
      rw [hattempts] at hplace
      exact .timed (scheduleReconnect_between h hplace (hbetween sequence attempts hplace)).1
    · have hsame : s.scheduleReconnect = s := by
        unfold scheduleReconnect
        rw [hpresent]
        dsimp only
        rw [hplace.standing, scheduleNext_refused sequence
          (fun attempts heq => hplaced ⟨attempts, heq⟩) hplace.valid]
        split_ifs with hbusy hexhausted
        · rfl
        · cases hexhausted
        · rfl
      rw [hsame]
      exact .stays (.refl h)

/-- An attempt that is going on is over: the next one is scheduled, or the final grace. -/
theorem finishReconnectAttempt_inFlight (h : Orderly s) {attempts : Nat}
    (hplace : Recovers sequence (.inFlight attempts) s) :
    Timed s (s.finishReconnectAttempt sequence (ticketAfter sequence attempts)) ∧
      Further (s.finishReconnectAttempt sequence (ticketAfter sequence attempts)) sequence
        (.inFlight attempts) := by
  have hlt : attempts < 5 := hplace.valid
  unfold finishReconnectAttempt
  rw [hplace.standing, complete_inFlight sequence attempts hlt]
  dsimp only
  obtain ⟨hcompleted, hbetween, hkept⟩ := h.moved hplace (.between (attempts + 1))
    (s.setSequence sequence (standing sequence (.between (attempts + 1))))
    (Nat.succ_le_of_lt hlt) rfl hplace.timer rfl rfl rfl rfl rfl rfl rfl rfl hplace.showing
  by_cases hlast : attempts + 1 = 5
  · rw [if_pos ((allAttemptsCompleted_between (le_of_eq hlast)).mpr hlast)]
    have hfour : attempts = 4 := by omega
    subst hfour
    have hgrace : (standing sequence (.between 5)).scheduleGrace = standing sequence .grace := rfl
    obtain ⟨horderly, hexpiring, hmoved⟩ := h.moved hplace .grace
      ((s.setSequence sequence (standing sequence (.between 5))).scheduleReconnectExpiry
        sequence (ticketAfter sequence 4)) trivial (by
          unfold scheduleReconnectExpiry setSequence
          dsimp only
          rw [Function.update_self, Function.update_idem, hgrace])
      rfl rfl rfl rfl rfl rfl rfl rfl rfl hplace.showing
    exact ⟨⟨horderly, rfl, rfl, hmoved⟩, .grace, hexpiring, by decide⟩
  · rw [if_neg fun hcompleted => hlast
      ((allAttemptsCompleted_between (Nat.succ_le_of_lt hlt)).mp hcompleted)]
    obtain ⟨hscheduled, hpending⟩ := scheduleReconnect_between hcompleted hbetween (by omega)
    refine ⟨⟨hscheduled.orderly, hscheduled.timer, hscheduled.processes, hscheduled.kept.grown,
      hscheduled.kept.made, hscheduled.kept.closed, fun q hq hother => ?_⟩, _, hpending, ?_⟩
    · rw [hscheduled.kept.others q hq hother, hkept.others q hq hother]
    · simp only [Place.position]
      omega

/-- A ticket that is not that of the attempt going on changes nothing. -/
theorem finishReconnectAttempt_outcome (h : Orderly s) (sequence : Nat)
    (ticket : ReconnectAttemptTicket) :
    Outcome s (s.finishReconnectAttempt sequence ticket) := by
  by_cases hflying : ∃ attempts, Recovers sequence (.inFlight attempts) s ∧
      ticket = ticketAfter sequence attempts
  · obtain ⟨attempts, hplace, hticket⟩ := hflying
    rw [hticket]
    exact .timed (finishReconnectAttempt_inFlight h hplace).1
  · have hrefused : (s.sequences sequence).complete ticket = (s.sequences sequence, false) := by
      by_cases hpresent : s.reconnectSequence = some sequence
      · obtain ⟨place, hplace⟩ := h.recovers sequence hpresent
        rw [hplace.standing]
        refine if_pos (.inr fun hticket => hflying ?_)
        cases place with
        | inFlight attempts => exact ⟨attempts, hplace, (some.inj hticket).symm⟩
        | between attempts => cases hticket
        | pending attempts => cases hticket
        | grace => cases hticket
      · by_cases hmade : sequence < s.nextSequence
        · exact (h.ended sequence hmade hpresent).refuses.complete ticket
        · rw [h.fresh sequence (not_lt.mp hmade)]
          exact if_pos (.inr (some_ne_none ticket).symm)
    have hsame : s.finishReconnectAttempt sequence ticket = s := by
      unfold finishReconnectAttempt
      rw [hrefused]
    rw [hsame]
    exact .stays (.refl h)

/-- The sequence recovers. -/
theorem completeReconnect_settled (h : Orderly s) (resumeFails : Bool) :
    Settled s (s.completeReconnect resumeFails) := by
  have hended : ∀ state : RemoteDesktopState, Settled s
      { s with
        reconnectTimer := none
        sequences := s.invalidated .recovered
        reconnectSequence := none
        reconnectProgress := none
        reconnectConnectionGracePending := false
        signalingRecoveryRequired := false
        state := state } := by
    intro state
    refine ⟨⟨h.allocated, ?_, ?_, h.closing, h.closed, fun _ => rfl, h.tearing, ?_⟩, rfl, le_rfl,
      le_rfl, id, ?_⟩
    · intro q hq
      exact (s.invalidated_apply .recovered q).trans
        ((if_neg (h.closable.fresh q hq).1).trans (h.fresh q hq))
    · intro q hq _
      change (s.invalidated .recovered q).Ended
      rw [s.invalidated_apply]
      split_ifs with hpresent
      · obtain ⟨place, hplace⟩ := h.recovers q hpresent
        rw [hplace.standing]
        exact recovered_ended q hplace.valid
      · exact h.ended q hq hpresent
    · exact fun q hq => absurd hq.symm (some_ne_none q)
    · exact fun q _ hother => (s.invalidated_apply .recovered q).trans (if_neg hother)
  unfold completeReconnect
  dsimp only
  split_ifs
  · have hfirst := hended s.state
    have hfailed := failUnawaited_settled hfirst.orderly .peer
    obtain ⟨hgrown, hmade, hclosed, hothers⟩ := hfailed.kept
    refine ⟨hfailed.orderly, hfailed.sequence, hgrown, hmade, hclosed, fun q hq hother => ?_⟩
    rw [hothers q hq (some_ne_none q).symm]
    exact hfirst.kept.others q hq hother
  · exact hended .connected

/-! ### Operations -/

/-- A section that touches no field of the schedule. -/
theorem Stays.of_eq (h : Orderly s) (hsequence : s'.reconnectSequence = s.reconnectSequence)
    (htimer : s'.reconnectTimer = s.reconnectTimer) (hsequences : s'.sequences = s.sequences)
    (hnext : s'.nextSequence = s.nextSequence) (hprocesses : s'.processes = s.processes)
    (hnextProcess : s'.nextProcess = s.nextProcess)
    (hgeneration : s'.operationGeneration = s.operationGeneration)
    (hclosed : s'.resourcesClosed = s.resourcesClosed)
    (hfuture : s'.resourceCloseFuture = s.resourceCloseFuture)
    (hcloseFuture : s'.closeFuture = s.closeFuture) (hdisposed : s'.disposed = s.disposed)
    (hstate : s'.state = s.state ∨ s'.state = .connecting ∨ s'.state = .authenticating ∨
      s'.state = .negotiating ∨ s'.state = .connected ∨ s'.state = .reconnecting) :
    Stays s s' := by
  refine ⟨hsequence, htimer, hsequences, hnext, hprocesses, hnextProcess, hgeneration, hclosed,
    fun hclosing => h.closing (hfuture ▸ hclosing), hcloseFuture, hdisposed,
    fun _ hshowing => ?_⟩
  unfold isOver at hshowing ⊢
  rcases hstate with hstate | hstate | hstate | hstate | hstate | hstate
  · rw [hstate]
    exact hshowing
  · rw [hstate]
    rfl
  · rw [hstate]
    rfl
  · rw [hstate]
    rfl
  · rw [hstate]
    rfl
  · rw [hstate]
    rfl

section Sections

variable (setting : RemoteSetting)

theorem relay_stays (h : Orderly s) (payload : SignalingPayload) (nowUnixMs : Int64) :
    Stays s (s.relay setting payload nowUnixMs).1 := by
  unfold relay
  split
  · dsimp only
    split_ifs
    · exact .of_eq h rfl rfl rfl rfl rfl rfl rfl rfl rfl rfl rfl (.inl rfl)
    · exact .of_eq h rfl rfl rfl rfl rfl rfl rfl rfl rfl rfl rfl (.inl rfl)
  · exact .refl h

/-- What a relay refuses was not thrown because the operation was overtaken. -/
theorem relay_notCancelled (payload : SignalingPayload) (nowUnixMs : Int64)
    (s : RemoteDesktopController) :
    notCancelled (s.relay setting payload nowUnixMs).2 = true := by
  unfold relay
  split
  · dsimp only
    split_ifs
    · rfl
    · rfl
  · rfl

theorem relayCandidate_stays (h : Orderly s) (candidate : IceCandidate) (nowUnixMs : Int64) :
    Stays s (s.relayCandidate setting candidate nowUnixMs).1 :=
  relay_stays setting h _ nowUnixMs

theorem Stays.trans (h : Stays s s') (h' : Stays s' s'') : Stays s s'' where
  sequence := h'.sequence.trans h.sequence
  timer := h'.timer.trans h.timer
  sequences := h'.sequences.trans h.sequences
  nextSequence := h'.nextSequence.trans h.nextSequence
  processes := h'.processes.trans h.processes
  nextProcess := h'.nextProcess.trans h.nextProcess
  generation := h'.generation.trans h.generation
  resourcesClosed := h'.resourcesClosed.trans h.resourcesClosed
  resourceCloseFuture hclosing := by
    rw [← h.resourcesClosed]
    exact h'.resourceCloseFuture hclosing
  closeFuture := h'.closeFuture.trans h.closeFuture
  disposed := h'.disposed.trans h.disposed
  showing hsome hshowing := h'.showing (h.sequence ▸ hsome) (h.showing hsome hshowing)

/-- The candidates that wait are sent, and the section ends at a point of the offer. -/
theorem sendCandidates_stays (h : Orderly s) (candidates : List IceCandidate) (nowUnixMs : Int64) :
    Stays s (s.sendCandidates setting candidates nowUnixMs).1 ∧
      (s.sendCandidates setting candidates nowUnixMs).2.isAttempt = true := by
  cases candidates with
  | nil => exact ⟨.of_eq h rfl rfl rfl rfl rfl rfl rfl rfl rfl rfl rfl (.inl rfl), rfl⟩
  | cons candidate rest =>
    exact ⟨relayCandidate_stays setting h candidate nowUnixMs,
      relay_notCancelled setting _ nowUnixMs s⟩

theorem sendAuthenticatedOffer_isAttempt (peerOffer : ControllerPeerOffer) (nowUnixMs : Int64)
    (randomBytes : Nat → Bytes) (s : RemoteDesktopController) :
    (s.sendAuthenticatedOffer setting peerOffer nowUnixMs randomBytes).isAttempt = true := by
  unfold sendAuthenticatedOffer
  split
  · next controller target _ _ =>
    cases hoffer : s.createOffer setting controller target peerOffer nowUnixMs randomBytes with
    | error exception =>
      unfold createOffer checkedRandom at hoffer
      split_ifs at hoffer with hlength
      · cases hoffer
        rfl
      · cases hoffer
    | ok offer =>
      dsimp only
      split
      · rfl
      · rfl
  · rfl

/-- The point is not one of a teardown. -/
def NotTeardown (point : RemotePoint) : Prop :=
  ∀ step, point ≠ .teardown step

theorem NotTeardown.of_isAttempt {point : RemotePoint} (h : point.isAttempt = true) :
    NotTeardown point := by
  rintro step rfl
  cases h

/-- What a call of `_sendAuthenticatedOffer` does: the schedule stays as it is, and an operation
that is not overtaken goes on with its offer. -/
structure Sends (s : RemoteDesktopController) (process : RemoteProcess)
    (r : RemoteDesktopController × RemotePoint) : Prop where
  stays : Stays s r.1
  goesOn : s.operationIsCurrent process.operationGeneration = true →
    process.point.isAttempt = true → r.2.isAttempt = true
  point : NotTeardown process.point → NotTeardown r.2

/-- The section ends at a point of the offer. -/
theorem Sends.of_isAttempt {process : RemoteProcess}
    {r : RemoteDesktopController × RemotePoint} (hstays : Stays s r.1)
    (h : r.2.isAttempt = true) : Sends s process r :=
  ⟨hstays, fun _ _ => h, fun _ => .of_isAttempt h⟩

/-- What was thrown before is thrown now. -/
theorem Sends.of_refused (h : Orderly s) {process : RemoteProcess}
    (exception : Option RemoteException)
    (hpoint : process.point.isAttempt = true → notCancelled exception = true) :
    Sends s process (s, .offerReturned exception) :=
  ⟨.refl h, fun _ => hpoint, fun _ => by rintro step ⟨⟩⟩

theorem resumeSending_sends (h : Orderly s) (process : RemoteProcess)
    (resumption : RemoteResumption) :
    Sends s process (s.resumeSending setting process resumption) := by
  unfold resumeSending
  split
  · exact .of_refused h _ fun _ => rfl
  · next hpoint => exact .of_refused h _ fun hattempt => by rwa [hpoint] at hattempt
  · next hpoint => exact .of_refused h _ fun hattempt => by rwa [hpoint] at hattempt
  · next hpoint => exact .of_refused h _ fun hattempt => by rwa [hpoint] at hattempt
  · exact .of_refused h _ fun _ => rfl
  · split_ifs with hovertaken
    · refine ⟨.refl h, fun hcurrent _ => ?_, fun _ => by rintro step ⟨⟩⟩
      rw [hcurrent] at hovertaken
      cases hovertaken
    · split
      · exact .of_isAttempt (.refl h) rfl
      · have hcleared : Stays s
            { s with
              offer := some { (‹SessionOfferAuthentication›) with signature := ‹Bytes› }
              answer := none
              reconnect := none
              answerDescription := none } :=
          .of_eq h rfl rfl rfl rfl rfl rfl rfl rfl rfl rfl rfl (.inl rfl)
        exact .of_isAttempt (hcleared.trans (relay_stays setting (hcleared.orderly h) _ _))
          (relay_notCancelled setting _ _ _)
      · exact .of_isAttempt (relay_stays setting h _ _) (relay_notCancelled setting _ _ _)
      · have hsent : Stays s { s with offerSent := true } :=
          .of_eq h rfl rfl rfl rfl rfl rfl rfl rfl rfl rfl rfl (.inl rfl)
        obtain ⟨hstays, hattempt⟩ := sendCandidates_stays setting (hsent.orderly h)
          s.pendingLocalCandidates resumption.nowUnixMs
        exact .of_isAttempt (hsent.trans hstays) hattempt
      · obtain ⟨hstays, hattempt⟩ := sendCandidates_stays setting h ‹List IceCandidate›
          resumption.nowUnixMs
        exact .of_isAttempt hstays hattempt
      · exact ⟨.refl h, fun _ hattempt => hattempt, fun hpoint => hpoint⟩

/-! ### Sections of operations -/

/-- What a section of an operation does to the schedule; it tears nothing down itself. -/
structure Section (s : RemoteDesktopController)
    (r : RemoteDesktopController × Option RemotePoint) : Prop where
  outcome : Outcome s r.1
  point : ∀ point, r.2 = some point → NotTeardown point

theorem Section.of_none {s s' : RemoteDesktopController} (h : Outcome s s') :
    Section s (s', none) :=
  ⟨h, fun _ hpoint => absurd hpoint.symm (some_ne_none _)⟩

theorem Section.of_some {s s' : RemoteDesktopController} {point : RemotePoint}
    (h : Outcome s s') (hpoint : NotTeardown point) : Section s (s', some point) :=
  ⟨h, fun _ hsome => some.inj hsome ▸ hpoint⟩

/-- The section leaves everything as it is. -/
theorem Section.refl (h : Orderly s) : Section s (s, none) := .of_none (.stays (.refl h))

theorem Outcome.of_stays (hstays : Stays s s') (h : Outcome s' s'') : Outcome s s'' := by
  cases h with
  | stays h => exact .stays (hstays.trans h)
  | settled h => exact .settled (.of_stays hstays h)
  | timed h =>
    exact .timed ⟨h.orderly, h.timer, h.processes.trans hstays.processes, hstays.kept_trans h.kept⟩

theorem Section.of_stays {r : RemoteDesktopController × Option RemotePoint}
    (hstays : Stays s s') (h : Section s' r) : Section s r :=
  ⟨.of_stays hstays h.outcome, h.point⟩

theorem fail_section (h : Orderly s) (code : RemoteDesktopErrorCode) :
    Section s (s.fail code) :=
  ⟨.settled (fail_settled h code), fun _ hpoint step hstep =>
    fail_point code s step (hstep ▸ hpoint)⟩

/-- A failure while the session is being recovered is noted. -/
theorem handleRecoverableFailure_present (h : Orderly s)
    (hpresent : s.reconnectSequence.isSome = true) (signaling : Bool) :
    Section s (s.handleRecoverableFailure signaling) := by
  unfold handleRecoverableFailure
  split
  · exact .refl h
  · split
    · exact fail_section h _
    · dsimp only
      rw [if_pos hpresent]
      exact .of_none (.stays (.of_eq h rfl rfl rfl rfl rfl rfl rfl rfl rfl rfl rfl
        (.inr (.inr (.inr (.inr (.inr rfl)))))))

theorem attemptThrown_section (h : Orderly s) (sequence : Nat) (ticket : ReconnectAttemptTicket)
    (exception : RemoteException) : Section s (s.attemptThrown sequence ticket exception) := by
  unfold attemptThrown
  split
  · exact .refl h
  · have hnoted : Stays s
        { s with signalingRecoveryRequired := true, reconnectFailureCode := .signaling } :=
      .of_eq h rfl rfl rfl rfl rfl rfl rfl rfl rfl rfl rfl (.inl rfl)
    exact .of_none (.of_stays hnoted
      (finishReconnectAttempt_outcome (hnoted.orderly h) sequence ticket))
  · exact .of_none (finishReconnectAttempt_outcome h sequence ticket)
  · exact fail_section h _
  · exact fail_section h _
  · exact fail_section h _
  · exact fail_section h _
  · exact fail_section h _
  · exact fail_section h _

theorem thrown_section (h : Orderly s) (operation : RemoteOperation)
    (exception : RemoteException) : Section s (s.thrown operation exception) := by
  cases operation with
  | connect =>
    unfold thrown
    dsimp only
    split_ifs
    · exact .refl h
    · exact fail_section h _
  | routed => exact fail_section h _
  | localCandidate =>
    unfold thrown
    dsimp only
    split_ifs with hpresent
    · exact handleRecoverableFailure_present h hpresent true
    · exact fail_section h _
  | attempt sequence ticket => exact attemptThrown_section h sequence ticket exception
  | recoverableFailure => exact .refl h
  | fail => exact .refl h
  | close => exact .refl h
  | resourceClose => exact .refl h

theorem offerReturned_section (h : Orderly s) (operation : RemoteOperation) (generation : Nat)
    (exception : Option RemoteException) :
    Section s (s.offerReturned operation generation exception) := by
  cases exception with
  | some exception => exact thrown_section h operation exception
  | none =>
    cases operation with
    | connect =>
      unfold offerReturned
      dsimp only
      split_ifs
      · exact .of_none (.stays (.of_eq h rfl rfl rfl rfl rfl rfl rfl rfl rfl rfl rfl
          (.inr (.inr (.inr (.inl rfl))))))
      · exact thrown_section h _ _
    | attempt sequence ticket =>
      exact .of_none (finishReconnectAttempt_outcome h sequence ticket)
    | routed => exact .refl h
    | localCandidate => exact .refl h
    | recoverableFailure => exact .refl h
    | fail => exact .refl h
    | close => exact .refl h
    | resourceClose => exact .refl h

theorem tryApplyAnswer_section (h : Orderly s) (nowUnixMs : Int64) :
    Section s (s.tryApplyAnswer setting nowUnixMs) := by
  unfold tryApplyAnswer
  split
  · split_ifs
    · exact .refl h
    · split
      · exact .of_some (.stays (.refl h)) (by rintro step ⟨⟩)
      · exact .of_some (.stays (.of_eq h rfl rfl rfl rfl rfl rfl rfl rfl rfl rfl rfl (.inl rfl)))
          (by rintro step ⟨⟩)
  · exact .refl h

/-- The response of the Host is kept, and applied if it is complete. -/
theorem tryApplyAnswer_kept (h : Orderly s) (nowUnixMs : Int64)
    (answer : Option SessionAnswerAuthentication)
    (reconnect : Option SessionReconnectAuthentication)
    (description : Option WebRtcSessionDescription) :
    Section s (tryApplyAnswer setting nowUnixMs
      { s with answer := answer, reconnect := reconnect, answerDescription := description }) := by
  have hkept : Stays s
      { s with answer := answer, reconnect := reconnect, answerDescription := description } :=
    .of_eq h rfl rfl rfl rfl rfl rfl rfl rfl rfl rfl rfl (.inl rfl)
  exact .of_stays hkept (tryApplyAnswer_section setting (hkept.orderly h) nowUnixMs)

theorem handleSessionAuthentication_section (h : Orderly s) (sessionId : Bytes)
    (authentication : Option SessionAuthentication) (nowUnixMs : Int64) :
    Section s (s.handleSessionAuthentication setting sessionId authentication nowUnixMs) := by
  unfold handleSessionAuthentication
  split
  · split_ifs
    · exact thrown_section h _ _
    · exact tryApplyAnswer_kept setting h nowUnixMs _ _ _
  · split_ifs
    · exact thrown_section h _ _
    · exact tryApplyAnswer_kept setting h nowUnixMs _ _ _
  · exact thrown_section h _ _
  · exact thrown_section h _ _

theorem handleWebRtcNegotiation_section (h : Orderly s) (sessionId : Bytes)
    (negotiation : WebRtcNegotiation) (nowUnixMs : Int64) :
    Section s (s.handleWebRtcNegotiation setting sessionId negotiation nowUnixMs) := by
  unfold handleWebRtcNegotiation
  split_ifs
  · exact thrown_section h _ _
  · split
    · split_ifs
      · exact thrown_section h _ _
      · exact tryApplyAnswer_kept setting h nowUnixMs _ _ _
    · exact .of_some (.stays (.refl h)) (by rintro step ⟨⟩)
    · exact .refl h
    · exact .refl h

theorem handleSessionStatus_section (h : Orderly s) (sessionId : Bytes) (status : SessionStatus) :
    Section s (s.handleSessionStatus sessionId status) := by
  unfold handleSessionStatus
  split_ifs
  · exact thrown_section h _ _
  · exact .of_some (.settled (closeResources_settled h false)) (by rintro step ⟨⟩)
  · exact thrown_section h _ _
  · exact .refl h

theorem handleRouted_section (h : Orderly s) (senderDeviceId opaqueEnvelope : Bytes)
    (nowUnixMs : Int64) :
    Section s (s.handleRouted setting senderDeviceId opaqueEnvelope nowUnixMs) := by
  unfold handleRouted
  split_ifs
  · exact .refl h
  · split
    · split
      · exact thrown_section h _ _
      · split_ifs
        · exact thrown_section h _ _
        · split
          · exact handleSessionAuthentication_section setting h _ _ nowUnixMs
          · exact handleWebRtcNegotiation_section setting h _ _ nowUnixMs
          · split_ifs with hretryable
            · exact handleRecoverableFailure_present h hretryable.1 true
            · exact thrown_section h _ _
          · exact handleSessionStatus_section h _ _
          · exact thrown_section h _ _
          · exact thrown_section h _ _
          · exact thrown_section h _ _
    · exact thrown_section h _ _

theorem identityOpened_section (h : Orderly s) (generation : Nat) (identity : DeviceIdentity)
    (randomBytes : Nat → Bytes) :
    Section s (s.identityOpened generation identity randomBytes) := by
  unfold identityOpened
  split
  · exact thrown_section h _ _
  · dsimp only
    have hidentified : Stays s { s with controllerIdentity := some identity } :=
      .of_eq h rfl rfl rfl rfl rfl rfl rfl rfl rfl rfl rfl (.inl rfl)
    split
    · exact .of_stays hidentified (thrown_section (hidentified.orderly h) _ _)
    · exact .of_some (.stays (.of_eq h rfl rfl rfl rfl rfl rfl rfl rfl rfl rfl rfl (.inl rfl)))
        (by rintro step ⟨⟩)

theorem resumeOpening_section (h : Orderly s) {process : RemoteProcess}
    (hpoint : NotTeardown process.point) (resumption : RemoteResumption) :
    Section s (s.resumeOpening setting process resumption) := by
  unfold resumeOpening
  split
  · exact thrown_section h _ _
  · split_ifs
    · exact thrown_section h _ _
    · split
      · exact identityOpened_section h _ _ _
      · exact .of_some (.stays (.refl h)) (by rintro step ⟨⟩)
      · exact .of_some
          (.stays (.of_eq h rfl rfl rfl rfl rfl rfl rfl rfl rfl rfl rfl (.inr (.inr (.inl rfl)))))
          (.of_isAttempt (sendAuthenticatedOffer_isAttempt setting _ _ _ _))
      · exact .of_some (.stays (.of_eq h rfl rfl rfl rfl rfl rfl rfl rfl rfl rfl rfl (.inl rfl)))
          (by rintro step ⟨⟩)
      · exact .of_some (.stays (.refl h))
          (.of_isAttempt (sendAuthenticatedOffer_isAttempt setting _ _ _ _))
      · exact .of_some (.stays (.refl h)) hpoint

/-- A session that is over stays over, and one without a present sequence stays so. -/
theorem Settled.trans_stays (hsettled : Settled s s') (hstays : Stays s' s'') :
    Settled s s'' where
  orderly := hstays.orderly hsettled.orderly
  sequence := hstays.sequence.trans hsettled.sequence
  kept :=
    { grown := hsettled.kept.grown.trans (le_of_eq hstays.nextProcess.symm)
      made := hsettled.kept.made.trans (le_of_eq hstays.nextSequence.symm)
      closed := fun hclosed => hstays.resourcesClosed.trans (hsettled.kept.closed hclosed)
      others := fun q hq hother => by
        rw [hstays.sequences]
        exact hsettled.kept.others q hq hother }

theorem responseApplied_outcome (h : Orderly s) (offer : SessionOfferAuthentication)
    (peerConnected resumeFails : Bool) :
    Outcome s (s.responseApplied offer peerConnected resumeFails) := by
  have hfirst : Stays s
      { s with
        inputSender := some (s.inputSender.getD offer.sessionId)
        answer := none
        reconnect := none
        answerDescription := none } :=
    .of_eq h rfl rfl rfl rfl rfl rfl rfl rfl rfl rfl rfl (.inl rfl)
  unfold responseApplied
  dsimp only
  split_ifs
  · have hsettled := completeReconnect_settled (hfirst.orderly h) resumeFails
    exact .of_stays hfirst (.settled (hsettled.trans_stays
      (.of_eq hsettled.orderly rfl rfl rfl rfl rfl rfl rfl rfl rfl rfl rfl (.inl rfl))))
  · exact .stays (.of_eq h rfl rfl rfl rfl rfl rfl rfl rfl rfl rfl rfl
      (.inr (.inr (.inr (.inr (.inl rfl))))))
  · exact .stays (.of_eq h rfl rfl rfl rfl rfl rfl rfl rfl rfl rfl rfl (.inr (.inl rfl)))

theorem resumeAnswer_section (h : Orderly s) {process : RemoteProcess}
    (hpoint : NotTeardown process.point) (resumption : RemoteResumption) :
    Section s (s.resumeAnswer process resumption) := by
  have hleft : Stays s { s with answerApplicationInFlight := false } :=
    .of_eq h rfl rfl rfl rfl rfl rfl rfl rfl rfl rfl rfl (.inl rfl)
  unfold resumeAnswer
  dsimp only
  split
  · exact .of_some (.stays hleft) (by rintro step ⟨⟩)
  · split_ifs
    · exact .of_some (.stays hleft) (by rintro step ⟨⟩)
    · refine .of_some (.stays ?_) (by rintro step ⟨⟩)
      unfold responseVerified
      split
      · exact .of_eq h rfl rfl rfl rfl rfl rfl rfl rfl rfl rfl rfl (.inl rfl)
      · exact .of_eq h rfl rfl rfl rfl rfl rfl rfl rfl rfl rfl rfl (.inl rfl)
  · exact .of_some (.stays hleft) (by rintro step ⟨⟩)
  · split_ifs
    · exact .of_some (.stays hleft) (by rintro step ⟨⟩)
    · exact .of_none (responseApplied_outcome h _ _ _)
  · exact .of_some (.stays (.refl h)) hpoint

/-- The steps of a teardown leave the schedule as it is. -/
theorem tearDown_stays (h : Orderly s) (hclosed : s.resourcesClosed = true) (step : TeardownStep)
    (nowUnixMs : Int64) : Stays s (s.tearDown setting step nowUnixMs).1 := by
  cases step with
  | input notifyRemote =>
    unfold tearDown
    dsimp only
    split_ifs
    · exact relay_stays setting h _ nowUnixMs
    · exact .of_eq h rfl rfl rfl rfl rfl rfl rfl rfl rfl rfl rfl (.inl rfl)
  | closingStatus => exact .of_eq h rfl rfl rfl rfl rfl rfl rfl rfl rfl rfl rfl (.inl rfl)
  | candidateStream => exact .refl h
  | peerStream => exact .refl h
  | signalingStream => exact .refl h
  | peer => exact .refl h
  | signaling => exact .refl h
  | identity =>
    exact ⟨rfl, rfl, rfl, rfl, rfl, rfl, rfl, rfl, fun _ => hclosed, rfl, rfl, fun _ => id⟩

/-- What shows that the resources are released does not touch the schedule. -/
theorem Stays.of_released (h : Orderly s) (hreleased : s.resourceCloseFuture = some true)
    (errorCode : Option RemoteDesktopErrorCode) (state : RemoteDesktopState) :
    Stays s { s with errorCode := errorCode, state := state } := by
  have hfuture : s.resourceCloseFuture.isSome = true := by
    rw [hreleased]
    rfl
  refine ⟨rfl, rfl, rfl, rfl, rfl, rfl, rfl, rfl, h.closing, rfl, rfl, fun hpresent => ?_⟩
  rw [h.none_of_closed (h.closing hfuture)] at hpresent
  cases hpresent

end Sections

end RemoteDesktopController

end Client

end Roammand
