import Roammand.Client.ReconnectSchedule

/-!
# The reconnect schedule never stalls

While a session is being recovered, something always drives the recovery on: the timer before an
attempt or the one of the final grace, an attempt that is going on, or the suspension of input with
which the recovery starts.  Every step of the controller is put together from the sections of its
operations, and a run from its steps.

Main results:

- Theorem `RemoteDesktopController.step_scheduled`: every step keeps the schedule.
- Theorem `RemoteDesktopController.reconnect_schedule`: in every run the present sequence is driven
  on, every sequence keeps to its course, and one that has ended stays as it is.
-/

namespace Roammand

namespace Client

open Library Protocol ReconnectAttemptSequence Function List RemotePoint Option

namespace RemoteDesktopController

open ReconnectAttemptSequence (Place standing ticketAfter Ended)

variable {s s' s'' : RemoteDesktopController} {sequence : Nat} {place : Place}

section Sections

variable (setting : RemoteSetting)

/-! ## Operations drive the recovery on -/

/-- What resuming an operation does to the schedule.  Where the schedule stays as it is, an
operation that drives a sequence on still does. -/
inductive Resumed (s : RemoteDesktopController) (process : RemoteProcess)
    (r : RemoteDesktopController × Option RemotePoint) : Prop where
  | settled (h : Settled s r.1)
  | timed (h : Timed s r.1)
      (further : ∀ q place, Recovers q place s → Drives s.operationGeneration q process place →
        Further r.1 q place)
  | stays (h : Stays s r.1)
      (goesOn : ∀ q place, Recovers q place s → Drives s.operationGeneration q process place →
        ∃ point, r.2 = some point ∧
          Drives s.operationGeneration q { process with point := point } place)

variable {ticket : ReconnectAttemptTicket} {process : RemoteProcess}
  {r : RemoteDesktopController × Option RemotePoint}

/-- An operation that drives nothing on does no harm. -/
theorem Resumed.of_outcome (h : Outcome s r.1) (hidle : ∀ q place, Recovers q place s →
      ¬ Drives s.operationGeneration q process place) : Resumed s process r := by
  cases h with
  | stays h => exact .stays h fun q place hplace hdrives => absurd hdrives (hidle q place hplace)
  | settled h => exact .settled h
  | timed h =>
    exact .timed h fun q place hplace hdrives => absurd hdrives (hidle q place hplace)

/-- The operation has brought the present sequence further. -/
theorem Resumed.of_further (hplace : Recovers sequence place s)
    (h : Timed s r.1) (hfurther : Further r.1 sequence place) : Resumed s process r := by
  refine .timed h fun q place' hplace' _ => ?_
  obtain rfl := hplace'.sequence_eq hplace.present
  rw [hplace'.place_eq hplace]
  exact hfurther

/-- What is thrown in the attempt that is going on ends it, or the session. -/
theorem attemptThrown_inFlight (h : Orderly s) {attempts : Nat}
    (hplace : Recovers sequence (.inFlight attempts) s) {exception : RemoteException}
    (hcancelled : exception ≠ .operationCancelled) {process : RemoteProcess} :
    Resumed s process (s.attemptThrown sequence (ticketAfter sequence attempts) exception) := by
  unfold attemptThrown
  split
  · exact absurd rfl hcancelled
  · have hnoted : Stays s
        { s with signalingRecoveryRequired := true, reconnectFailureCode := .signaling } :=
      .of_eq h rfl rfl rfl rfl rfl rfl rfl rfl rfl rfl rfl (.inl rfl)
    obtain ⟨⟨horderly, htimer, hprocesses, hkept⟩, hfurther⟩ :=
      finishReconnectAttempt_inFlight (hnoted.orderly h) (hnoted.recovers hplace)
    exact .of_further hplace ⟨horderly, htimer, hprocesses, hnoted.kept_trans hkept⟩ hfurther
  · obtain ⟨htimed, hfurther⟩ := finishReconnectAttempt_inFlight h hplace
    exact .of_further hplace htimed hfurther
  · exact .settled (fail_settled h _)
  · exact .settled (fail_settled h _)
  · exact .settled (fail_settled h _)
  · exact .settled (fail_settled h _)
  · exact .settled (fail_settled h _)
  · exact .settled (fail_settled h _)

theorem Recovers.current (hplace : Recovers sequence place s) :
    s.operationIsCurrent s.operationGeneration = true := by
  unfold operationIsCurrent
  rw [hplace.opened, hplace.kept, decide_eq_true rfl]
  rfl

/-- The attempt that is going on goes on, or is over. -/
theorem resumeAt_inFlight (h : Orderly s) {attempts : Nat}
    (hplace : Recovers sequence (.inFlight attempts) s) {process : RemoteProcess}
    (hdrives : Drives s.operationGeneration sequence process (.inFlight attempts))
    (resumption : RemoteResumption) :
    Resumed s process (s.resumeAt setting process resumption) := by
  obtain ⟨hoperation, hgeneration, hattempt⟩ := hdrives
  have hcurrent : s.operationIsCurrent process.operationGeneration = true := by
    rw [hgeneration]
    exact hplace.current
  have hgoesOn : ∀ {s' point}, Stays s s' → point.isAttempt = true →
      Resumed s process (s', some point) := by
    intro s' point hstays hpoint
    refine .stays hstays fun q place' hplace' _ => ⟨point, rfl, ?_⟩
    obtain rfl := hplace'.sequence_eq hplace.present
    rw [hplace'.place_eq hplace]
    exact ⟨hoperation, hgeneration, hpoint⟩
  have hthrown : ∀ exception, exception ≠ RemoteException.operationCancelled →
      Resumed s process (s.thrown process.operation exception) := by
    intro exception hcancelled
    rw [hoperation]
    exact attemptThrown_inFlight h hplace hcancelled
  have hopening : process.point = .recoverSignaling ∨ process.point = .restartIce →
      Resumed s process (s.resumeOpening setting process resumption) := by
    intro hpoint
    unfold resumeOpening
    split
    · exact hthrown _ (by rintro ⟨⟩)
    · rw [hcurrent, if_neg (by decide)]
      rcases hpoint with hpoint | hpoint
      · rw [hpoint]
        split
        · cases ‹recoverSignaling = _›
        · cases ‹recoverSignaling = _›
        · cases ‹recoverSignaling = _›
        · exact hgoesOn (.of_eq h rfl rfl rfl rfl rfl rfl rfl rfl rfl rfl rfl (.inl rfl)) rfl
        · cases ‹recoverSignaling = _›
        · exact hgoesOn (.refl h) rfl
      · rw [hpoint]
        split
        · cases ‹restartIce = _›
        · cases ‹restartIce = _›
        · cases ‹restartIce = _›
        · cases ‹restartIce = _›
        · exact hgoesOn (.refl h) (sendAuthenticatedOffer_isAttempt setting _ _ _ _)
        · exact hgoesOn (.refl h) rfl
  have hsending : Resumed s process
      ((s.resumeSending setting process resumption).1,
        some (s.resumeSending setting process resumption).2) := by
    have hsends := resumeSending_sends setting h process resumption
    exact hgoesOn hsends.stays (hsends.goesOn hcurrent hattempt)
  unfold resumeAt
  cases hpoint : process.point with
  | recoverSignaling => exact hopening (.inl hpoint)
  | restartIce => exact hopening (.inr hpoint)
  | signOffer _ _ | validateSignature _ _ _ _ | relayOffer _ _ _ | relayDescription _
  | relayCandidates _ _ => exact hsending
  | offerReturned exception =>
    cases exception with
    | none =>
      rw [hoperation]
      obtain ⟨htimed, hfurther⟩ := finishReconnectAttempt_inFlight h hplace
      exact .of_further hplace htimed hfurther
    | some exception =>
      rw [hpoint] at hattempt
      exact hthrown exception fun heq => of_decide_eq_true hattempt (congrArg some heq)
  | openIdentity | connectSignaling | startPeer | verifyAnswer _ _ _ | applyAnswer _
  | answerReturned _ | addCandidate | relayCandidate _ | suspend | failing | closing
  | teardown _ =>
    rw [hpoint] at hattempt
    cases hattempt

/-- What any operation does to the schedule when it is resumed; a teardown goes on only while the
resources are being released. -/
structure Advances (s : RemoteDesktopController)
    (r : RemoteDesktopController × Option RemotePoint) : Prop where
  outcome : Outcome s r.1
  tearing : ∀ step, r.2 = some (.teardown step) → s.resourcesClosed = true

theorem resumeAt_advances (h : Scheduled s) (process : RemoteProcess)
    (htearing : ∀ step, process.point = .teardown step → s.resourcesClosed = true)
    (resumption : RemoteResumption) :
    Advances s (s.resumeAt setting process resumption) := by
  have horderly := h.orderly
  have hsection : ∀ {r}, Section s r → Advances s r :=
    fun hsection => ⟨hsection.outcome, fun step hstep => absurd rfl (hsection.point _ hstep step)⟩
  unfold resumeAt
  cases hpoint : process.point with
  | openIdentity | connectSignaling | startPeer | recoverSignaling | restartIce =>
    exact hsection (resumeOpening_section setting horderly
      (fun step hstep => by cases hpoint.symm.trans hstep) resumption)
  | signOffer _ _ | validateSignature _ _ _ _ | relayOffer _ _ _ | relayDescription _
  | relayCandidates _ _ =>
    have hsends := resumeSending_sends setting horderly process resumption
    exact hsection (.of_some (.stays hsends.stays)
      (hsends.point fun step hstep => by cases hpoint.symm.trans hstep))
  | offerReturned exception => exact hsection (offerReturned_section horderly _ _ exception)
  | verifyAnswer _ _ _ | applyAnswer _ =>
    exact hsection (resumeAnswer_section horderly
      (fun step hstep => by cases hpoint.symm.trans hstep) resumption)
  | answerReturned exception =>
    cases exception with
    | some exception => exact hsection (thrown_section horderly _ _)
    | none => exact hsection (.refl horderly)
  | addCandidate =>
    dsimp only
    split
    · exact hsection (thrown_section horderly _ _)
    · split_ifs
      · exact hsection (.refl horderly)
      · exact hsection (thrown_section horderly _ _)
  | relayCandidate exception =>
    cases exception with
    | some exception => exact hsection (thrown_section horderly _ _)
    | none =>
      dsimp only
      split
      · exact hsection (thrown_section horderly _ _)
      · exact hsection (.refl horderly)
  | suspend =>
    dsimp only
    split_ifs
    · refine hsection (.of_none (scheduleReconnect_outcome horderly fun q attempts hplace => ?_))
      rcases h.driven q _ hplace with htimer | ⟨_, _, _, hattempts, _⟩
      · cases htimer
      · omega
    · exact hsection (.refl horderly)
  | failing =>
    dsimp only
    split_ifs with hreleased
    · exact hsection (.refl horderly)
    · exact hsection (.of_none (.stays (.of_released horderly hreleased s.errorCode .failed)))
    · exact hsection (.of_some (.stays (.refl horderly)) (by rintro step ⟨⟩))
  | closing =>
    dsimp only
    split_ifs with hreleased
    · exact hsection (.of_none (.stays (.of_released horderly hreleased none .idle)))
    · exact hsection (.of_some (.stays (.refl horderly)) (by rintro step ⟨⟩))
  | teardown step =>
    exact ⟨.stays (tearDown_stays setting horderly (htearing step hpoint) step _),
      fun _ _ => htearing step hpoint⟩

theorem resumeAt_resumed (h : Scheduled s) (process : RemoteProcess)
    (htearing : ∀ step, process.point = .teardown step → s.resourcesClosed = true)
    (resumption : RemoteResumption) :
    Resumed s process (s.resumeAt setting process resumption) := by
  by_cases hdrives : ∃ q place, Recovers q place s ∧
      Drives s.operationGeneration q process place
  · obtain ⟨q, place, hplace, hdrives⟩ := hdrives
    cases place with
    | pending attempts => exact hdrives.elim
    | grace => exact hdrives.elim
    | inFlight attempts => exact resumeAt_inFlight setting h.orderly hplace hdrives resumption
    | between attempts =>
      obtain ⟨hattempts, hgeneration, hpoint⟩ := hdrives
      unfold resumeAt
      rw [hpoint]
      dsimp only
      rw [hgeneration, hplace.current, if_pos rfl]
      obtain ⟨htimed, hpending⟩ := scheduleReconnect_between h.orderly hplace (by omega)
      exact .of_further hplace htimed ⟨_, hpending, Nat.lt_succ_self _⟩
  · exact .of_outcome (resumeAt_advances setting h process htearing resumption).outcome
      fun q place hplace hdrive => hdrives ⟨q, place, hplace, hdrive⟩

/-! ## Steps -/

/-- A step keeps the schedule, and every sequence that is not the present one. -/
structure Steps (s s' : RemoteDesktopController) : Prop where
  scheduled : Scheduled s'
  kept : Kept s s'

theorem Steps.refl (h : Scheduled s) : Steps s s := ⟨h, .refl s⟩

/-- An operation that drives a sequence on still does when operations are only added. -/
theorem Driven.mono (h : Driven s sequence place)
    (hprocesses : ∀ i process, s.processes i = some process → s'.processes i = some process)
    (hgeneration : s'.operationGeneration = s.operationGeneration) : Driven s' sequence place := by
  rcases h with htimer | ⟨i, process, hprocess, hdrives⟩
  · exact .inl htimer
  · refine .inr ⟨i, process, hprocesses i process hprocess, ?_⟩
    rw [hgeneration]
    exact hdrives

theorem Recovers.driven_of_timer (h : Recovers sequence place s)
    (htimer : s.reconnectTimer.isSome = true) : Driven s sequence place := by
  rw [h.timer] at htimer
  exact .inl htimer

theorem Settled.steps (h : Settled s s') : Steps s s' where
  scheduled := ⟨h.orderly, fun q _ hplace =>
    absurd (h.sequence.symm.trans hplace.present) (some_ne_none q).symm⟩
  kept := h.kept

theorem Timed.steps (h : Timed s s') : Steps s s' where
  scheduled := ⟨h.orderly, fun _ _ hplace => hplace.driven_of_timer h.timer⟩
  kept := h.kept

/-- Where the schedule stays as it is, the present sequence stands where it stood. -/
theorem Stays.recovers_iff (hstays : Stays s s') (h : Orderly s) :
    Recovers sequence place s' → Recovers sequence place s := by
  intro hplace
  obtain ⟨place', hplace'⟩ := h.recovers sequence (hstays.sequence.symm.trans hplace.present)
  rw [(hplace.place_eq (hstays.recovers hplace'))]
  exact hplace'

theorem Stays.steps (hstays : Stays s s') (h : Scheduled s) : Steps s s' where
  scheduled := ⟨hstays.orderly h.orderly, fun q _ hplace =>
    (h.driven q _ (hstays.recovers_iff h.orderly hplace)).mono
      (fun i process hprocess => by rwa [hstays.processes]) hstays.generation⟩
  kept := hstays.kept

theorem Outcome.steps (houtcome : Outcome s s') (h : Scheduled s) : Steps s s' := by
  cases houtcome with
  | stays hstays => exact hstays.steps h
  | settled hsettled => exact hsettled.steps
  | timed htimed => exact htimed.steps

theorem Orderly.spawn (h : Orderly s) (operation : RemoteOperation) (generation : Nat)
    {point : RemotePoint} (hpoint : NotTeardown point) :
    Orderly (s.spawn operation generation point) where
  allocated := spawn_allocated h.allocated _ _ _
  fresh := h.fresh
  ended := h.ended
  closing := h.closing
  closed := h.closed
  waiting := h.waiting
  tearing := spawn_tearing h.tearing _ _ fun step hstep => absurd hstep (hpoint step)
  recovers q hq := by
    obtain ⟨place, hplace⟩ := h.recovers q hq
    exact ⟨place, hplace.present, hplace.made, hplace.valid, hplace.standing, hplace.timer,
      hplace.opened, hplace.kept, hplace.showing⟩

/-- A new operation does not hold the recovery up. -/
theorem spawn_scheduled (h : Scheduled s) (operation : RemoteOperation) (generation : Nat)
    {point : RemotePoint} (hpoint : NotTeardown point) :
    Scheduled (s.spawn operation generation point) := by
  refine ⟨h.orderly.spawn operation generation hpoint, fun q place hplace => ?_⟩
  have hbefore : Recovers q place s := ⟨hplace.present, hplace.made, hplace.valid,
    hplace.standing, hplace.timer, hplace.opened, hplace.kept, hplace.showing⟩
  refine (h.driven q place hbefore).mono (fun i process hprocess => ?_) rfl
  have hne : i ≠ s.nextProcess := by
    rintro rfl
    rw [h.orderly.allocated _ le_rfl] at hprocess
    cases hprocess
  rw [spawn_processes, if_neg hne]
  exact hprocess

theorem call_steps (h : Scheduled s) (operation : RemoteOperation) (generation : Nat)
    {r : RemoteDesktopController × Option RemotePoint} (hsection : Section s r) :
    Steps s (call operation generation r) := by
  obtain ⟨hscheduled, hgrown, hmade, hclosed, hothers⟩ := hsection.outcome.steps h
  unfold call
  cases hpoint : r.2 with
  | none => exact ⟨hscheduled, hgrown, hmade, hclosed, hothers⟩
  | some point =>
    exact ⟨spawn_scheduled hscheduled operation generation (hsection.point point hpoint),
      hgrown.trans (Nat.le_succ _), hmade, hclosed, hothers⟩

/-- An operation that goes on, or is over, leaves the controller orderly. -/
theorem Orderly.put (h : Orderly s) {index : Nat} (hindex : index < s.nextProcess)
    {new : Option RemoteProcess}
    (hnew : ∀ process step, new = some process → process.point = .teardown step →
      s.resourcesClosed = true) :
    Orderly { s with processes := update s.processes index new } where
  allocated i hi := by
    refine (update_of_ne ?_ _ _).trans (h.allocated i hi)
    have hle : s.nextProcess ≤ i := hi
    omega
  fresh := h.fresh
  ended := h.ended
  closing := h.closing
  closed := h.closed
  waiting := h.waiting
  tearing i process step hprocess hstep := by
    change update s.processes index new i = some process at hprocess
    rw [update_apply] at hprocess
    split_ifs at hprocess
    · exact hnew process step hprocess hstep
    · exact h.tearing i process step hprocess hstep
  recovers q hq := by
    obtain ⟨place, hplace⟩ := h.recovers q hq
    exact ⟨place, hplace.present, hplace.made, hplace.valid, hplace.standing, hplace.timer,
      hplace.opened, hplace.kept, hplace.showing⟩

/-- Resuming an operation keeps the schedule: if it drove the present sequence on, it goes on, has
set the timer, or has ended the sequence. -/
theorem resume_steps (h : Scheduled s) (index : Nat) (resumption : RemoteResumption) :
    Steps s (s.resume setting index resumption) := by
  unfold resume
  cases hprocess : s.processes index with
  | none => exact .refl h
  | some process =>
    dsimp only
    have hindex : index < s.nextProcess := by
      by_contra hle
      rw [h.orderly.allocated index (not_lt.mp hle)] at hprocess
      cases hprocess
    have htearing : ∀ step, process.point = .teardown step → s.resourcesClosed = true :=
      fun step hstep => h.orderly.tearing index process step hprocess hstep
    have hadvances := resumeAt_advances setting h process htearing resumption
    have hresumed := resumeAt_resumed setting h process htearing resumption
    generalize s.resumeAt setting process resumption = r at hadvances hresumed ⊢
    obtain ⟨hgrown, hmade, hclosed, hothers⟩ := hadvances.outcome.kept
    refine ⟨⟨?_, fun q place hplace => ?_⟩, hgrown, hmade, hclosed, hothers⟩
    · refine ((hadvances.outcome.steps h).scheduled.orderly).put (hindex.trans_le hgrown) ?_
      intro process' step hnew hstep
      obtain ⟨point, hpoint, rfl⟩ := map_eq_some_iff.mp hnew
      exact hclosed (hadvances.tearing step (hpoint.trans (congrArg some hstep)))
    · have hafter : Recovers q place r.1 := ⟨hplace.present, hplace.made, hplace.valid,
        hplace.standing, hplace.timer, hplace.opened, hplace.kept, hplace.showing⟩
      cases hresumed with
      | settled hsettled =>
        exact absurd (hsettled.sequence.symm.trans hafter.present) (some_ne_none q).symm
      | timed htimed => exact hplace.driven_of_timer htimed.timer
      | stays hstays hgoesOn =>
        have hbefore := hstays.recovers_iff h.orderly hafter
        rcases h.driven q place hbefore with htimer | ⟨i, process', hprocess', hdrives⟩
        · exact .inl htimer
        · right
          by_cases hsame : i = index
          · rw [hsame, hprocess] at hprocess'
            rw [← some.inj hprocess'] at hdrives
            obtain ⟨point, hpoint, hstill⟩ := hgoesOn q place hbefore hdrives
            refine ⟨index, { process with point := point }, ?_, ?_⟩
            · rw [hpoint]
              exact update_self ..
            · rw [← hstays.generation] at hstill
              exact hstill
          · refine ⟨i, process', ?_, ?_⟩
            · refine (update_of_ne hsame _ _).trans ?_
              rw [hstays.processes]
              exact hprocess'
            · rw [← hstays.generation] at hdrives
              exact hdrives


/-! ### What the owner calls -/

theorem connect_steps (h : Scheduled s) (target : RemoteDesktopTarget) :
    Steps s (s.connect setting target) := by
  unfold connect
  split_ifs with hstate
  · exact .refl h
  · exact .refl h
  · rw [not_or, not_not] at hstate
    have hnone : s.reconnectSequence = none :=
      h.orderly.none_of_over (isOver_iff.mpr (.inr (.inr hstate.1)))
    exact Settled.steps (h.orderly.of_none hnone hnone rfl rfl rfl
      (spawn_allocated h.orderly.allocated _ _ _) (Nat.le_succ _) h.orderly.closing h.orderly.closed
      (spawn_tearing h.orderly.tearing _ _ (by rintro step ⟨⟩)) id)

/-- Closing ends the present sequence, also when the controller is being disposed of. -/
theorem close_settled (h : Orderly s) (disposed : Bool) :
    Settled s { s with disposed := disposed }.close := by
  unfold close
  split_ifs with hclose
  · have hnone : s.reconnectSequence = none := h.none_of_closed (h.closed hclose)
    exact h.of_none hnone hnone rfl rfl rfl h.allocated le_rfl h.closing h.closed h.tearing id
  · rcases closeResources_cases true
      { s with closeRequested := true, closeFuture := true, disposed := disposed } with
      ⟨hclosing, hsame⟩ | hstarted
    · have hclosed : s.resourcesClosed = true := h.closing hclosing
      have hnone : s.reconnectSequence = none := h.none_of_closed hclosed
      rw [hsame]
      exact h.of_none hnone hnone rfl rfl rfl (spawn_allocated h.allocated _ _ _) (Nat.le_succ _)
        h.closing (fun _ => hclosed) (spawn_tearing h.tearing _ _ (by rintro step ⟨⟩)) id
    · rw [hstarted]
      obtain ⟨hallocated, hfresh, hended, hpresent⟩ := h.closable
      have hsettled := startResourceClose_settled
        (s := { s with closeRequested := true, closeFuture := true, disposed := disposed })
        ⟨hallocated, hfresh, hended, hpresent⟩ true
      obtain ⟨horderly, hsequence, hgrown, hmade, hclosed, hothers⟩ :=
        call_settled .close s.operationGeneration
          (r := (_, some .closing)) hsettled (by rintro step ⟨⟩)
      exact ⟨horderly, hsequence, hgrown, hmade, hclosed, hothers⟩

theorem close_steps (h : Scheduled s) : Steps s s.close :=
  (close_settled h.orderly s.disposed).steps

theorem dispose_steps (h : Scheduled s) : Steps s s.dispose := by
  unfold dispose
  split_ifs
  · exact .refl h
  · exact (close_settled h.orderly true).steps

/-! ### What the services send -/

/-- A recoverable failure starts a sequence, and the suspension of input drives it on. -/
theorem handleRecoverableFailure_steps (h : Scheduled s) (signaling : Bool) {generation : Nat}
    (hcurrent : s.operationIsCurrent generation = true) :
    Steps s (call .recoverableFailure generation (s.handleRecoverableFailure signaling)) := by
  by_cases hpresent : s.reconnectSequence.isSome = true
  · exact call_steps h _ _ (handleRecoverableFailure_present h.orderly hpresent signaling)
  rw [not_isSome_iff_eq_none] at hpresent
  simp only [operationIsCurrent, Bool.and_eq_true, Bool.not_eq_true', decide_eq_true_eq]
    at hcurrent
  obtain ⟨⟨hopened, hkept⟩, hgeneration⟩ := hcurrent
  unfold handleRecoverableFailure
  split
  · exact .refl h
  · split
    · exact call_steps h _ _ (fail_section h.orderly _)
    · dsimp only
      rw [hpresent, isSome_none, if_neg (by decide)]
      have hplace : ∀ q, s.nextSequence = q → ∀ s', s'.reconnectSequence = some q →
          s'.nextSequence = q + 1 → s'.sequences =
            update s.sequences q (start q) →
          s'.reconnectTimer = s.reconnectTimer → s'.resourcesClosed = s.resourcesClosed →
          s'.disposed = s.disposed → s'.state = .reconnecting →
          Recovers q (.between 0) s' := by
        intro q hq s' hsequence hnext hsequences htimer hclosed hdisposed hstate
        refine ⟨hsequence, hnext ▸ Nat.lt_succ_self q, Nat.zero_le 5, ?_,
          htimer.trans (h.orderly.waiting hpresent), hclosed.trans hopened,
          hdisposed.trans hkept, ?_⟩
        · rw [hsequences, update_self]
          exact start_eq q
        · unfold isOver
          rw [hstate]
          rfl
      refine ⟨⟨⟨?_, ?_, ?_, h.orderly.closing, h.orderly.closed, ?_, ?_, ?_⟩, ?_⟩,
        Nat.le_succ _, Nat.le_succ _, id, ?_⟩
      · exact spawn_allocated h.orderly.allocated _ _ _
      · intro q hq
        have hlt : s.nextSequence < q := hq
        exact (update_of_ne hlt.ne' _ _).trans (h.orderly.fresh q hlt.le)
      · intro q hq hother
        have hne : q ≠ s.nextSequence := fun heq => hother (congrArg some heq.symm)
        have hle : q < s.nextSequence + 1 := hq
        refine (congrArg Ended (update_of_ne hne _ _)).mpr (h.orderly.ended q (by omega) ?_)
        rw [hpresent]
        exact (some_ne_none q).symm
      · exact fun hnone => absurd hnone (some_ne_none _)
      · exact spawn_tearing h.orderly.tearing _ _ (by rintro step ⟨⟩)
      · intro q hq
        obtain rfl := some.inj hq
        exact ⟨.between 0, hplace s.nextSequence rfl _ rfl rfl rfl rfl rfl rfl rfl⟩
      · intro q place hat
        obtain rfl := some.inj hat.present
        rw [hat.place_eq (hplace s.nextSequence rfl _ rfl rfl rfl rfl rfl rfl rfl)]
        refine .inr ⟨s.nextProcess, ⟨.recoverableFailure, generation, .suspend⟩, ?_, rfl,
          hgeneration, rfl⟩
        rw [call, spawn_processes]
        exact if_pos rfl
      · intro q hq _
        exact update_of_ne hq.ne _ _

theorem handleLocalCandidate_section (h : Orderly s) (candidate : IceCandidate)
    (nowUnixMs : Int64) : Section s (s.handleLocalCandidate setting candidate nowUnixMs) := by
  unfold handleLocalCandidate
  split
  · split
    · exact fail_section h _
    · exact .of_none (.stays (.of_eq h rfl rfl rfl rfl rfl rfl rfl rfl rfl rfl rfl (.inl rfl)))
  · exact .of_some (.stays (relayCandidate_stays setting h candidate nowUnixMs)) (by rintro step ⟨⟩)

theorem handlePeerEvent_steps (h : Scheduled s) (event : ControllerPeerEvent)
    (resumeFails : Bool) (hcurrent : s.operationIsCurrent s.operationGeneration = true) :
    Steps s (s.handlePeerEvent event resumeFails) := by
  cases event with
  | connected =>
    unfold handlePeerEvent
    dsimp only
    split_ifs
    · exact (completeReconnect_settled h.orderly resumeFails).steps
    · exact Stays.steps (.of_eq h.orderly rfl rfl rfl rfl rfl rfl rfl rfl rfl rfl rfl
        (.inr (.inr (.inr (.inr (.inl rfl)))))) h
    · exact (completeReconnect_settled h.orderly resumeFails).steps
    · exact .refl h
  | disconnected => exact handleRecoverableFailure_steps h false hcurrent
  | failed => exact handleRecoverableFailure_steps h false hcurrent

theorem listened_steps (h : Scheduled s)
    {handler : Nat → RemoteDesktopController → RemoteDesktopController}
    (hhandler : ∀ generation, s.operationIsCurrent generation = true →
      Steps s (handler generation s)) : Steps s (s.listened handler) := by
  unfold listened
  split
  · exact .refl h
  · split_ifs with hcurrent
    · exact hhandler _ hcurrent
    · exact .refl h

/-! ### The timer -/

/-- A timer that is set is the one of the place where the present sequence stands. -/
theorem Orderly.timer_set (h : Orderly s) {timer : ReconnectTimer}
    (htimer : s.reconnectTimer = some timer) :
    ∃ q place, Recovers q place s ∧ timerAt q place = some timer := by
  cases hpresent : s.reconnectSequence with
  | none =>
    rw [h.waiting hpresent] at htimer
    cases htimer
  | some q =>
    obtain ⟨place, hplace⟩ := h.recovers q hpresent
    exact ⟨q, place, hplace, hplace.timer.symm.trans htimer⟩

/-- What is kept by a section that leaves the present sequence present, and by the one after it. -/
theorem Kept.trans_present (h : Kept s s') (hpresent : s'.reconnectSequence = s.reconnectSequence)
    (h' : Kept s' s'') : Kept s s'' where
  grown := h.grown.trans h'.grown
  made := h.made.trans h'.made
  closed hclosed := h'.closed (h.closed hclosed)
  others q hq hother := by
    rw [h'.others q (hq.trans_le h.made) (hpresent.symm ▸ hother), h.others q hq hother]

variable {q : ReconnectAttemptSequence}

/-- A ticket that begins an attempt in which the connection is waited for. -/
theorem waitForCurrentConnection_begun (hpresent : s.reconnectSequence = some sequence)
    (hbegun : (s.sequences sequence).begin ticket = (q, true)) :
    s.waitForCurrentConnection ticket =
      (s.setSequence sequence q).finishReconnectAttempt sequence ticket := by
  unfold waitForCurrentConnection
  rw [hpresent]
  dsimp only
  rw [hbegun]

/-- A ticket that begins an attempt. -/
theorem runReconnectAttempt_begun (hpresent : s.reconnectSequence = some sequence)
    (hbegun : (s.sequences sequence).begin ticket = (q, true)) :
    s.runReconnectAttempt ticket =
      call (.attempt sequence ticket) s.operationGeneration
        (if s.signalingRecoveryRequired then
          (s.setSequence sequence q, some .recoverSignaling)
        else (s.setSequence sequence q).startRestart) := by
  unfold runReconnectAttempt
  rw [hpresent]
  dsimp only
  rw [hbegun]
  rfl

/-- A step in which the present sequence comes further on its course. -/
structure Progresses (s s' : RemoteDesktopController) (sequence : Nat) (place : Place) : Prop where
  steps : Steps s s'
  further : Further s' sequence place

/-- The attempt whose time has come begins: it waits for the connection that is being made, or
asks for a new offer. -/
theorem attempt_steps (h : Orderly s) {attempts : Nat}
    (hplace : Recovers sequence (.pending attempts) s) (pending : Bool) :
    Progresses s ({ s with
      reconnectTimer := none
      reconnectConnectionGracePending := pending }.waitForCurrentConnection
        (ticketAfter sequence attempts)) sequence (.pending attempts) ∧
    Progresses s ({ s with reconnectTimer := none }.runReconnectAttempt
      (ticketAfter sequence attempts)) sequence (.pending attempts) := by
  have hlt : attempts < 5 := hplace.valid
  have hbegun : (s.sequences sequence).begin (ticketAfter sequence attempts) =
      (standing sequence (.inFlight attempts), true) := by
    rw [hplace.standing]
    exact begin_pending sequence attempts hlt
  have hmoved : ∀ s' : RemoteDesktopController,
      s'.sequences = update s.sequences sequence (standing sequence (.inFlight attempts)) →
      s'.reconnectTimer = none → s'.reconnectSequence = s.reconnectSequence →
      s'.nextSequence = s.nextSequence → s'.processes = s.processes →
      s'.nextProcess = s.nextProcess → s'.resourcesClosed = s.resourcesClosed →
      s'.disposed = s.disposed → s'.resourceCloseFuture = s.resourceCloseFuture →
      s'.closeFuture = s.closeFuture → s'.isOver = false →
      Orderly s' ∧ Recovers sequence (.inFlight attempts) s' ∧ Kept s s' :=
    fun s' => h.moved hplace (.inFlight attempts) s' hlt
  constructor
  · rw [waitForCurrentConnection_begun (s := { s with
      reconnectTimer := none, reconnectConnectionGracePending := pending }) hplace.present hbegun]
    obtain ⟨horderly, hflying, hkept⟩ := hmoved
      (setSequence sequence (standing sequence (.inFlight attempts))
        { s with reconnectTimer := none, reconnectConnectionGracePending := pending })
      rfl rfl rfl rfl rfl rfl rfl rfl rfl rfl hplace.showing
    obtain ⟨htimed, place', hplace', hfurther⟩ := finishReconnectAttempt_inFlight horderly hflying
    exact ⟨⟨htimed.steps.scheduled, hkept.trans_present rfl htimed.kept⟩, place', hplace',
      (Nat.lt_succ_self _).trans hfurther⟩
  · rw [runReconnectAttempt_begun (s := { s with reconnectTimer := none }) hplace.present hbegun]
    obtain ⟨horderly, hflying, hkept⟩ := hmoved
      (setSequence sequence (standing sequence (.inFlight attempts))
        { s with reconnectTimer := none })
      rfl rfl rfl rfl rfl rfl rfl rfl rfl rfl hplace.showing
    dsimp only
    have hspawned : ∀ s' point, Stays (setSequence sequence (standing sequence (.inFlight attempts))
        { s with reconnectTimer := none }) s' → point.isAttempt = true →
        Progresses s (s'.spawn (.attempt sequence (ticketAfter sequence attempts))
          s.operationGeneration point) sequence (.pending attempts) := by
      intro s' point hstays hpoint
      obtain ⟨hgrown, hmade, hclosed, hothers⟩ := hkept.trans_present rfl hstays.kept
      have hbefore := hstays.recovers hflying
      refine ⟨⟨⟨(hstays.orderly horderly).spawn _ _ (.of_isAttempt hpoint), fun q place hat => ?_⟩,
        hgrown.trans (Nat.le_succ _), hmade, hclosed, hothers⟩, .inFlight attempts,
        ⟨hbefore.present, hbefore.made, hbefore.valid, hbefore.standing, hbefore.timer,
          hbefore.opened, hbefore.kept, hbefore.showing⟩, Nat.lt_succ_self _⟩
      have hnow : Recovers q place s' := ⟨hat.present, hat.made, hat.valid, hat.standing, hat.timer,
        hat.opened, hat.kept, hat.showing⟩
      obtain rfl := hnow.sequence_eq hbefore.present
      rw [hnow.place_eq hbefore]
      refine .inr ⟨s'.nextProcess, _, (spawn_processes ..).trans (if_pos rfl), rfl, ?_, hpoint⟩
      exact hstays.generation.symm
    split_ifs
    · exact hspawned _ _ (.refl horderly) rfl
    · exact hspawned _ _ (.of_eq horderly rfl rfl rfl rfl rfl rfl rfl rfl rfl rfl rfl (.inl rfl))
        rfl

/-- An open session that fails starts its teardown. -/
theorem failUnawaited_open (hshowing : s.isOver = false)
    (hfuture : s.resourceCloseFuture.isSome = false) (code : RemoteDesktopErrorCode) :
    s.failUnawaited code =
      call .fail s.operationGeneration
        ({ s with errorCode := some code }.startResourceClose true, some .failing) := by
  simp only [failUnawaited, fail, hshowing, closeResources, hfuture, Bool.false_eq_true, if_false]

/-- When an open session fails, its present sequence is cancelled. -/
theorem failUnawaited_ends (hshowing : s.isOver = false)
    (hfuture : s.resourceCloseFuture.isSome = false)
    (hpresent : s.reconnectSequence = some sequence) (code : RemoteDesktopErrorCode) :
    (s.failUnawaited code).reconnectSequence = none ∧
      (s.failUnawaited code).sequences sequence = (s.sequences sequence).cancel := by
  rw [failUnawaited_open hshowing hfuture code]
  exact ⟨rfl, (invalidated_apply { s with errorCode := some code } .cancelled sequence).trans
    (if_pos hpresent)⟩

/-- While a session is being recovered its resources are not released. -/
theorem Recovers.notReleasing (hplace : Recovers sequence place s) (h : Orderly s) :
    s.resourceCloseFuture.isSome = false := by
  cases hclosing : s.resourceCloseFuture.isSome with
  | false => rfl
  | true =>
    have hclosed := h.closing hclosing
    rw [hplace.opened] at hclosed
    cases hclosed

/-- The final grace is over: the session fails, and the sequence is exhausted. -/
theorem expiry_steps (h : Orderly s) (hplace : Recovers sequence .grace s) :
    Steps s ((setSequence sequence (standing sequence .grace).expire.1
      { s with reconnectTimer := none }).failUnawaited s.reconnectFailureCode) := by
  obtain ⟨-, hended⟩ := expire_grace sequence
  generalize (standing sequence .grace).expire.1 = expired at hended ⊢
  have hfuture := hplace.notReleasing h
  have hclosable : Closable { setSequence sequence expired { s with reconnectTimer := none } with
      errorCode := some s.reconnectFailureCode } := by
    obtain ⟨hallocated, hfresh, hothers, -⟩ := h.closable
    refine ⟨hallocated, fun q hq => ⟨(hfresh q hq).1, ?_⟩, fun q hq hother => ?_, fun q hq => ?_⟩
    · have hne : q ≠ sequence := fun heq => (hfresh q hq).1 (heq ▸ hplace.present)
      exact (update_of_ne hne _ _).trans (hfresh q hq).2
    · have hne : q ≠ sequence := fun heq => hother (heq ▸ hplace.present)
      exact (congrArg Ended (update_of_ne hne _ _)).mpr (hothers q hq hother)
    · obtain rfl := some.inj (hplace.present.symm.trans hq)
      refine (congrArg (fun expired => (cancel expired).Ended) (update_self ..)).mpr ?_
      change (expired.invalidate .cancelled).Ended
      rw [hended.refuses.invalidate]
      exact hended
  have hsettled := call_settled .fail s.operationGeneration (r := (_, some .failing))
    (startResourceClose_settled hclosable true) (by rintro step ⟨⟩)
  rw [failUnawaited_open (s := setSequence sequence expired { s with reconnectTimer := none })
    hplace.showing hfuture]
  obtain ⟨horderly, hsequence, hgrown, hmade, hclosed, hothers⟩ := hsettled
  refine Settled.steps ⟨horderly, hsequence, hgrown, hmade, hclosed, fun q hq hother => ?_⟩
  have hne : q ≠ sequence := fun heq => hother (heq ▸ hplace.present)
  exact (hothers q hq hother).trans (update_of_ne hne _ _)

theorem fireTimer_steps (h : Scheduled s) : Steps s s.fireTimer := by
  unfold fireTimer
  split
  · exact .refl h
  · next ticket htimer =>
    obtain ⟨q, place, hplace, hset⟩ := h.orderly.timer_set htimer
    cases place with
    | pending attempts =>
      cases hset
      dsimp only
      split_ifs
      · exact (attempt_steps h.orderly hplace false).1.steps
      · exact (attempt_steps h.orderly hplace false).2.steps
    | between attempts => cases hset
    | inFlight attempts => cases hset
    | grace => cases hset
  · next sequence ticket htimer =>
    obtain ⟨q, place, hplace, hset⟩ := h.orderly.timer_set htimer
    cases place with
    | grace =>
      cases hset
      dsimp only
      rw [if_neg (not_not.mpr hplace.present), hplace.standing]
      exact expiry_steps h.orderly hplace
    | pending attempts => cases hset
    | between attempts => cases hset
    | inFlight attempts => cases hset

/-- A timer that is set for an attempt belongs to the present sequence, and begins it. -/
theorem Scheduled.fires (h : Scheduled s) {ticket : ReconnectAttemptTicket}
    (htimer : s.reconnectTimer = some (.attempt ticket)) :
    s.reconnectSequence = some ticket.sequence ∧
      Records s s.fireTimer ticket.sequence (.begun ticket.attempt) := by
  obtain ⟨q, place, hplace, hset⟩ := h.orderly.timer_set htimer
  cases place with
  | pending attempts =>
    cases hset
    have hevent := course_pending q hplace.valid
    refine ⟨hplace.present, ?_⟩
    unfold fireTimer
    rw [htimer]
    dsimp only
    split_ifs
    · exact (attempt_steps h.orderly hplace false).1.further.records hplace hevent
    · exact (attempt_steps h.orderly hplace false).2.further.records hplace hevent
  | between attempts => cases hset
  | inFlight attempts => cases hset
  | grace => cases hset

/-- The timer of the final grace exhausts the present sequence. -/
theorem Scheduled.expires (h : Scheduled s) {q : Nat} {ticket : ReconnectAttemptTicket}
    (htimer : s.reconnectTimer = some (.expiry q ticket)) :
    s.reconnectSequence = some q ∧ (s.fireTimer.sequences q).exhausted = true ∧
      s.fireTimer.reconnectSequence = none := by
  obtain ⟨q', place, hplace, hset⟩ := h.orderly.timer_set htimer
  cases place with
  | grace =>
    cases hset
    have hfire : s.fireTimer = (setSequence q (standing q .grace).expire.1
        { s with reconnectTimer := none }).failUnawaited s.reconnectFailureCode := by
      unfold fireTimer
      rw [htimer]
      dsimp only
      rw [if_neg (not_not.mpr hplace.present), hplace.standing]
      rfl
    obtain ⟨hnone, hcancelled⟩ := failUnawaited_ends
      (s := setSequence q (standing q .grace).expire.1 { s with reconnectTimer := none })
      hplace.showing (hplace.notReleasing h.orderly) hplace.present s.reconnectFailureCode
    have hexpired : (setSequence q (standing q .grace).expire.1
        { s with reconnectTimer := none }).sequences q = (standing q .grace).expire.1 :=
      update_self ..
    rw [hfire, hcancelled, hexpired]
    exact ⟨hplace.present, rfl, hnone⟩
  | pending attempts => cases hset
  | between attempts => cases hset
  | inFlight attempts => cases hset

/-! ### Every step -/

/-- Every step keeps the schedule. -/
theorem step_scheduled (h : Scheduled s) (action : RemoteAction) :
    Steps s (s.step setting action) := by
  cases action with
  | connect target => exact connect_steps setting h target
  | close => exact close_steps h
  | dispose => exact dispose_steps h
  | resume process resumption => exact resume_steps setting h process resumption
  | routed senderDeviceId opaqueEnvelope nowUnixMs =>
    simp only [step]
    refine listened_steps h fun generation _ => ?_
    exact call_steps h .routed generation
      (handleRouted_section setting h.orderly senderDeviceId opaqueEnvelope nowUnixMs)
  | signalingFailed =>
    simp only [step]
    refine listened_steps h fun generation hcurrent => ?_
    exact handleRecoverableFailure_steps h true hcurrent
  | peerEvent event resumeFails =>
    simp only [step]
    refine listened_steps h fun generation hcurrent => ?_
    refine handlePeerEvent_steps h event resumeFails ?_
    simp only [operationIsCurrent, Bool.and_eq_true, decide_eq_true_eq] at hcurrent ⊢
    exact ⟨hcurrent.1, trivial⟩
  | streamFailed =>
    simp only [step]
    refine listened_steps h fun generation hcurrent => ?_
    exact handleRecoverableFailure_steps h false hcurrent
  | localCandidate candidate nowUnixMs =>
    simp only [step]
    refine listened_steps h fun generation _ => ?_
    exact call_steps h .localCandidate generation
      (handleLocalCandidate_section setting h.orderly candidate nowUnixMs)
  | timer => exact fireTimer_steps h
  | reliableFailure => exact (failUnawaited_settled h.orderly .peer).steps

end Sections

/-! ## Runs -/

variable (setting : RemoteSetting)

theorem new_orderly : Orderly new where
  allocated _ _ := rfl
  fresh _ _ := rfl
  ended q hq := absurd hq (Nat.not_lt_zero q)
  closing h := by cases h
  closed h := by cases h
  waiting _ := rfl
  tearing _ _ _ h := by cases h
  recovers q hq := by cases hq

theorem new_scheduled : Scheduled new :=
  ⟨new_orderly, fun q _ hplace => absurd hplace.present.symm (some_ne_none q)⟩

/-- In every run the present sequence is driven on. -/
theorem run_scheduled (actions : List RemoteAction) :
    Scheduled ((machine setting).run new actions) :=
  Machine.run_invariant (M := machine setting) (G := fun _ _ => True) Scheduled
    (fun _ action h _ => (step_scheduled setting h action).scheduled) new_scheduled
    (Machine.guarded_true _ _)

/-- Whatever happens, a sequence that has ended stays as it is. -/
theorem run_ended (h : Scheduled s) {q : Nat} (hmade : q < s.nextSequence)
    (hended : (s.sequences q).active = false) (actions : List RemoteAction) :
    ((machine setting).run s actions).sequences q = s.sequences q := by
  induction actions generalizing s with
  | nil => rfl
  | cons action actions ih =>
    obtain ⟨hscheduled, hkept⟩ := step_scheduled setting h action
    have hsame := hkept.others q hmade (h.orderly.not_present hended)
    exact (ih hscheduled (hmade.trans_le hkept.made) (hsame ▸ hended)).trans hsame

/-- What has happened to a sequence: it is active at some place of its course, or has ended. -/
def OnCourse (q : ReconnectAttemptSequence) : Prop :=
  (q.active = true ∧ q.exhausted = false ∧
      ∃ position ≤ 16, q.journal = course.take position) ∨ q.Ended

/-- The sequences that were made keep to the course, and only the present one is active. -/
theorem Orderly.onCourse (h : Orderly s) {q : Nat} (hmade : q < s.nextSequence) :
    OnCourse (s.sequences q) ∧
      ((s.sequences q).active = true ↔ s.reconnectSequence = some q) := by
  by_cases hpresent : s.reconnectSequence = some q
  · obtain ⟨place, hplace⟩ := h.recovers q hpresent
    rw [hplace.standing]
    exact ⟨.inl ⟨rfl, rfl, place.position, hplace.valid.position_le, rfl⟩, iff_of_true rfl hpresent⟩
  · have hended := h.ended q hmade hpresent
    refine ⟨.inr hended, iff_of_false ?_ hpresent⟩
    rw [hended.inactive]
    decide

/-- When an operation returns, an event has been next in a sequence, or nothing is being recovered
any more. -/
def Returns (s : RemoteDesktopController) (i q : Nat) (event : ReconnectEvent) : Prop :=
  ∀ resumption, (s.resume setting i resumption).processes i = none →
    Records s (s.resume setting i resumption) q event ∨
      (s.resume setting i resumption).reconnectSequence = none

/-- What drives the present sequence on, in terms of the controller's fields, and what comes of
it: the timer begins its attempt or exhausts the sequence, the attempt that is going on completes
its ticket, and after input was suspended the first attempt is scheduled. -/
inductive DrivenOn (s : RemoteDesktopController) (q : Nat) : Prop where
  | attempt (ticket : ReconnectAttemptTicket) (timer : s.reconnectTimer = some (.attempt ticket))
      (own : ticket.sequence = q) (fires : Records s s.fireTimer q (.begun ticket.attempt))
  | expiry (ticket : ReconnectAttemptTicket) (timer : s.reconnectTimer = some (.expiry q ticket))
      (fires : (s.fireTimer.sequences q).exhausted = true ∧ s.fireTimer.reconnectSequence = none)
  | inFlight (i : Nat) (process : RemoteProcess) (ticket : ReconnectAttemptTicket)
      (running : s.processes i = some process) (attempt : process.operation = .attempt q ticket)
      (current : process.operationGeneration = s.operationGeneration)
      (inFlight : (s.sequences q).inFlight = some ticket)
      (returns : Returns setting s i q (.completed ticket.attempt))
  | suspending (i : Nat) (process : RemoteProcess) (running : s.processes i = some process)
      (current : process.operationGeneration = s.operationGeneration)
      (point : process.point = .suspend) (returns : Returns setting s i q (.scheduled 1 1))

/-- An operation that drives the present sequence on brings it further when it returns. -/
theorem Scheduled.returns (h : Scheduled s) {i : Nat} {process : RemoteProcess}
    (hprocess : s.processes i = some process) (hplace : Recovers sequence place s)
    (hdrives : Drives s.operationGeneration sequence process place) {event : ReconnectEvent}
    (hevent : course[place.position]? = some event) :
    Returns setting s i sequence event := by
  intro resumption
  have hresumed := resumeAt_resumed setting h process
    (fun step hstep => h.orderly.tearing i process step hprocess hstep) resumption
  unfold resume
  rw [hprocess]
  dsimp only
  intro hreturned
  cases hresumed with
  | settled hsettled => exact .inr hsettled.sequence
  | timed _ hfurther => exact .inl ((hfurther sequence place hplace hdrives).records hplace hevent)
  | stays _ hgoesOn =>
    obtain ⟨point, hpoint, -⟩ := hgoesOn sequence place hplace hdrives
    rw [hpoint, update_self] at hreturned
    cases hreturned

theorem Scheduled.drivenOn (h : Scheduled s) {q : Nat} (hpresent : s.reconnectSequence = some q) :
    DrivenOn setting s q := by
  obtain ⟨place, hplace⟩ := h.orderly.recovers q hpresent
  have htimer := hplace.timer
  rcases h.driven q place hplace with hset | ⟨i, process, hprocess, hdrives⟩
  · cases place with
    | pending attempts => exact .attempt _ htimer rfl (h.fires htimer).2
    | grace => exact .expiry _ htimer (h.expires htimer).2
    | between attempts => cases hset
    | inFlight attempts => cases hset
  · cases place with
    | inFlight attempts =>
      have hevent := course_inFlight q hplace.valid
      have hreturns := h.returns setting hprocess hplace hdrives hevent
      obtain ⟨hoperation, hgeneration, -⟩ := hdrives
      refine .inFlight i process _ hprocess hoperation hgeneration ?_ hreturns
      rw [hplace.standing]
      rfl
    | between attempts =>
      obtain ⟨rfl, hgeneration, hpoint⟩ := hdrives
      exact .suspending i process hprocess hgeneration hpoint
        (h.returns setting hprocess hplace ⟨rfl, hgeneration, hpoint⟩ rfl)
    | pending attempts => exact hdrives.elim
    | grace => exact hdrives.elim

/-- The delays of what has happened to a sequence stay within the recovery window, and those of an
exhausted sequence fill it. -/
theorem OnCourse.delays {q : ReconnectAttemptSequence} (h : OnCourse q) :
    (q.journal.map delayOf).sum ≤ reconnectRecoveryWindow ∧
      (q.exhausted = true →
        (q.journal.map delayOf).sum = reconnectRecoveryWindow) := by
  have htake : ∀ position, ((course.take position).map
      delayOf).sum ≤ reconnectRecoveryWindow := by
    intro position
    have hsplit := congrArg (fun events => (events.map delayOf).sum)
      (take_append_drop position course)
    simp only [map_append, sum_append, sum_course] at hsplit
    omega
  rcases h with ⟨_, hexhausted, position, _, hjournal⟩ |
    ⟨_, ⟨_, hjournal⟩ | ⟨hexhausted, position, _, hjournal⟩⟩
  · rw [hjournal, hexhausted]
    exact ⟨htake position, fun h => by cases h⟩
  · rw [hjournal]
    exact ⟨sum_course.le, fun _ => sum_course⟩
  · refine ⟨?_, fun h => by rw [hexhausted] at h; cases h⟩
    rcases hjournal with hjournal | hjournal
    · rw [hjournal, map_append, sum_append]
      exact htake position
    · rw [hjournal, map_append, sum_append]
      exact htake position

/-- In every run, while a session is being recovered a timer is set, an attempt is going on or
input is being suspended, and whichever it is brings the sequence on.  Every sequence keeps to the
one course of five attempts and a final grace, which fill the recovery window, until it recovers, is
cancelled or is exhausted at its end; then nothing begins or completes in it any more. -/
theorem reconnect_schedule (actions : List RemoteAction) :
    let s := (machine setting).run new actions
    (∀ q, s.reconnectSequence = some q → DrivenOn setting s q) ∧
      ∀ q < s.nextSequence,
        OnCourse (s.sequences q) ∧
        ((s.sequences q).active = true ↔ s.reconnectSequence = some q) ∧
        ((s.sequences q).journal.map delayOf).sum ≤ reconnectRecoveryWindow ∧
        ((s.sequences q).exhausted = true →
          ((s.sequences q).journal.map delayOf).sum =
            reconnectRecoveryWindow) ∧
        ((s.sequences q).active = false → (s.sequences q).Refuses ∧
          ∀ later, ((machine setting).run new (actions ++ later)).sequences q =
            s.sequences q) := by
  have hscheduled := run_scheduled setting actions
  refine ⟨fun q => hscheduled.drivenOn setting, fun q hmade => ?_⟩
  obtain ⟨hcourse, hactive⟩ := hscheduled.orderly.onCourse hmade
  refine ⟨hcourse, hactive, hcourse.delays.1, hcourse.delays.2, fun hended => ⟨?_, fun later => ?_⟩⟩
  · refine (hscheduled.orderly.ended q hmade fun hpresent => ?_).refuses
    rw [hactive.mpr hpresent] at hended
    cases hended
  · rw [Machine.run_append]
    exact run_ended setting hscheduled hmade hended later

/-! ### A run -/

/-- A device whose identifier and key are zeros. -/
def sampleDevice : DeviceIdentity where
  deviceId := replicate 32 0
  publicKeyAlgorithm := publicKeyAlgorithmEd25519
  publicKey := replicate 32 0
  displayName := "desk"
  platform := 4

/-- The answer of the Host. -/
def sampleAnswer : SessionAnswerAuthentication where
  controllerDeviceId := replicate 32 0
  hostDeviceId := replicate 32 0
  sessionId := replicate 16 0
  nonce := replicate 32 0
  issuedAtUnixMs := 1700000000000
  expiresAtUnixMs := 1700000030000
  requestedPermissions := [.viewScreen, .controlInput]
  offerSha256 := replicate 32 0
  controllerDtlsFingerprintSha256 := replicate 32 0
  answerSha256 := replicate 32 0
  hostDtlsFingerprintSha256 := replicate 32 0
  signature := replicate 64 0

/-- The Host sends its answer as no bytes, and its description as some. -/
def sampleSetting : RemoteSetting where
  crypto :=
    { sha256 := fun _ => Vector.replicate 32 0
      validKey := fun _ => true
      verifies := fun _ _ _ => true }
  validEndpoint _ := true
  validEnvelope _ := true
  extractFingerprint _ := some (replicate 32 0)
  decodeEnvelope bytes :=
    some
      { senderDeviceId := sampleDevice.deviceId
        recipientDeviceId := sampleDevice.deviceId
        requestId := "answer"
        sentAtUnixMs := 1700000000000
        payload :=
          if bytes = [] then some (.sessionAuthentication (some (.answer sampleAnswer)))
          else
            some (.webrtcNegotiation
              { sessionId := sampleAnswer.sessionId
                payload :=
                  some (.description
                    { type := sessionDescriptionTypeAnswer
                      sdp := "answer"
                      dtlsFingerprintSha256 := replicate 32 0 }) }) }

/-- An operation goes on. -/
def sampleResume (process : Nat) (outcome : RemoteOutcome) : RemoteAction :=
  .resume process
    { outcome
      nowUnixMs := 1700000000000
      randomBytes := fun n => replicate n 0
      peerConnected := true
      resumeFails := false }

/-- A session is opened. -/
def sampleOpening : List RemoteAction :=
  [.connect ⟨sampleDevice, "wss://desk.example/"⟩, sampleResume 0 (.identity sampleDevice),
    sampleResume 0 .done, sampleResume 0 (.peerOffer ⟨"offer", replicate 32 0⟩),
    sampleResume 0 (.signature (replicate 64 0)), sampleResume 0 .done, sampleResume 0 .done,
    sampleResume 0 .done, sampleResume 0 .done, .routed sampleDevice.deviceId [] 1700000000000,
    .routed sampleDevice.deviceId [1] 1700000000000, sampleResume 1 .done, sampleResume 1 .done]

/-- The connection is lost, and an attempt fails. -/
def sampleAttempt (process : Nat) : List RemoteAction :=
  [.timer, sampleResume process (.thrown .peerSession)]

/-- A first loss is recovered from after one attempt, a second one never. -/
def sampleLosses : List RemoteAction :=
  [.peerEvent .disconnected false, sampleResume 2 .done] ++ sampleAttempt 3 ++
    [.peerEvent .connected false, .peerEvent .disconnected false, sampleResume 4 .done] ++
    sampleAttempt 5 ++ sampleAttempt 6 ++ sampleAttempt 7 ++ sampleAttempt 8 ++ sampleAttempt 9 ++
    [.timer]

/-- The first sequence ends in a recovery, and the second in its exhaustion, when its delays have
filled the recovery window. -/
theorem reconnect_schedule_sample :
    let s := (machine sampleSetting).run new (sampleOpening ++ sampleLosses)
    (s.sequences 0).journal =
        [.scheduled 1 1, .begun 1, .completed 1, .scheduled 2 2, .recovered] ∧
      (s.sequences 1).journal = course ∧
      ((s.sequences 1).journal.map delayOf).sum =
        reconnectRecoveryWindow ∧ s.reconnectSequence = none := by
  intro s
  have hmade : 1 < s.nextSequence := by decide +kernel
  have hexhausted : (s.sequences 1).exhausted = true := by decide +kernel
  obtain ⟨-, hsequences⟩ := reconnect_schedule sampleSetting (sampleOpening ++ sampleLosses)
  obtain ⟨-, -, -, hfilled, -⟩ := hsequences 1 hmade
  exact ⟨by decide +kernel, by decide +kernel, hfilled hexhausted, by decide +kernel⟩

end RemoteDesktopController

end Client

end Roammand
