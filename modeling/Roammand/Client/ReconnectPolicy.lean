import Mathlib.Tactic.IntervalCases

/-!
# The reconnect policy

A session that lost its connection is recovered by a bounded sequence of attempts.  A sequence
hands out a ticket for each attempt, one at a time, and adds up the delays before them; when the
last attempt is over, what is left of the recovery window is the final grace.

The course of a sequence is written down once, as the list of what happens in it.  A sequence that
is active stands at a place of its course, and a sequence that has ended was broken off there, or
is exhausted at the end of it.

Main results:

- Definitions `ReconnectAttemptSequence.scheduleNext`, `begin`, `complete`, `expire` and
  `invalidate`.
- Definition `ReconnectAttemptSequence.standing`: an active sequence at a place of its course.
- Theorem `ReconnectAttemptSequence.Ended.refuses`: a sequence that has ended stays as it is.
-/

namespace Roammand

namespace Client

/-! ## Tickets and sequences -/

/-- The delays before the attempts, in seconds. -/
def reconnectAttemptDelays : List Nat := [1, 2, 4, 8, 8]

/-- The time in which a session may recover, in seconds. -/
def reconnectRecoveryWindow : Nat := 30

/-- The ticket of an attempt.  A ticket is told from every other by the sequence that made it and
by its attempt. -/
structure ReconnectAttemptTicket where
  sequence : Nat
  generation : Nat
  attempt : Nat
  delay : Nat
  elapsed : Nat
  deriving DecidableEq

/-- What happens in a sequence. -/
inductive ReconnectEvent where
  | scheduled (attempt delay : Nat)
  | begun (attempt : Nat)
  | completed (attempt : Nat)
  | graceScheduled (delay : Nat)
  | exhausted
  | recovered
  | cancelled
  deriving DecidableEq

/-- A sequence of attempts.  The last field is not in the source: what has happened to it. -/
structure ReconnectAttemptSequence where
  identity : Nat
  generation : Nat
  nextIndex : Nat
  elapsed : Nat
  active : Bool
  exhausted : Bool
  pending : Option ReconnectAttemptTicket
  inFlight : Option ReconnectAttemptTicket
  journal : List ReconnectEvent

namespace ReconnectAttemptSequence

variable (identity : Nat)

/-- `ReconnectPolicy.start`. -/
def start : ReconnectAttemptSequence where
  identity := identity
  generation := 1
  nextIndex := 0
  elapsed := 0
  active := true
  exhausted := false
  pending := none
  inFlight := none
  journal := []

/-- No attempt is left, and none is going on. -/
def allAttemptsCompleted (q : ReconnectAttemptSequence) : Bool :=
  q.active && q.pending.isNone && q.inFlight.isNone &&
    decide (reconnectAttemptDelays.length ≤ q.nextIndex)

/-- What is left of the recovery window. -/
def remainingRecoveryWindow (q : ReconnectAttemptSequence) : Nat :=
  reconnectRecoveryWindow - q.elapsed

/-- The ticket of the next attempt. -/
def scheduleNext (q : ReconnectAttemptSequence) :
    ReconnectAttemptSequence × Option ReconnectAttemptTicket :=
  match reconnectAttemptDelays[q.nextIndex]? with
  | none => (q, none)
  | some delay =>
    if q.active = false ∨ q.pending.isSome ∨ q.inFlight.isSome then (q, none)
    else
      let ticket : ReconnectAttemptTicket :=
        { sequence := q.identity
          generation := q.generation
          attempt := q.nextIndex + 1
          delay := delay
          elapsed := q.elapsed + delay }
      ({ q with
          elapsed := q.elapsed + delay
          nextIndex := q.nextIndex + 1
          pending := some ticket
          journal := q.journal ++ [.scheduled ticket.attempt delay] },
        some ticket)

variable (ticket : ReconnectAttemptTicket)

/-- The ticket belongs to the present generation. -/
def isCurrent (q : ReconnectAttemptSequence) : Bool :=
  q.active && decide (ticket.generation = q.generation)

/-- An attempt starts. -/
def begin (q : ReconnectAttemptSequence) :
    ReconnectAttemptSequence × Bool :=
  if q.isCurrent ticket = false ∨ q.pending ≠ some ticket then (q, false)
  else
    ({ q with
        pending := none
        inFlight := some ticket
        journal := q.journal ++ [.begun ticket.attempt] },
      true)

/-- An attempt is over. -/
def complete (q : ReconnectAttemptSequence) :
    ReconnectAttemptSequence × Bool :=
  if q.isCurrent ticket = false ∨ q.inFlight ≠ some ticket then (q, false)
  else
    ({ q with
        inFlight := none
        journal := q.journal ++ [.completed ticket.attempt] },
      true)

/-- The final grace is over. -/
def expire (q : ReconnectAttemptSequence) : ReconnectAttemptSequence × Bool :=
  if q.allAttemptsCompleted = false then (q, false)
  else
    ({ q with
        active := false
        exhausted := true
        journal := q.journal ++ [.exhausted] },
      true)

/-- `_invalidate`: the sequence has recovered, or is cancelled. -/
def invalidate (ending : ReconnectEvent) (q : ReconnectAttemptSequence) :
    ReconnectAttemptSequence :=
  if q.active = false then q
  else
    { q with
      generation := q.generation + 1
      active := false
      pending := none
      inFlight := none
      journal := q.journal ++ [ending] }

/-- `recovered`. -/
def recovered (q : ReconnectAttemptSequence) : ReconnectAttemptSequence := q.invalidate .recovered

/-- `cancel`. -/
def cancel (q : ReconnectAttemptSequence) : ReconnectAttemptSequence := q.invalidate .cancelled

/-- The timer of the final grace is set. -/
def scheduleGrace (q : ReconnectAttemptSequence) : ReconnectAttemptSequence :=
  { q with journal := q.journal ++ [.graceScheduled q.remainingRecoveryWindow] }

/-! ## The course of a sequence -/

/-- The course of a sequence that never recovers: five attempts one after the other, each
scheduled, begun and completed, then the final grace and the end. -/
def course : List ReconnectEvent :=
  [.scheduled 1 1, .begun 1, .completed 1, .scheduled 2 2, .begun 2, .completed 2,
    .scheduled 3 4, .begun 3, .completed 3, .scheduled 4 8, .begun 4, .completed 4,
    .scheduled 5 8, .begun 5, .completed 5, .graceScheduled 7, .exhausted]

/-- The time that a timer is set for. -/
def delayOf : ReconnectEvent → Nat
  | .scheduled _ delay | .graceScheduled delay => delay
  | .begun _ | .completed _ | .exhausted | .recovered | .cancelled => 0

/-- The timers of the course fill the recovery window. -/
theorem sum_course : (course.map delayOf).sum = reconnectRecoveryWindow := rfl

/-- Where an active sequence stands: between two attempts, before the attempt that follows, in
it, or in the final grace. -/
inductive Place where
  | between (attempts : Nat)
  | pending (attempts : Nat)
  | inFlight (attempts : Nat)
  | grace
  deriving DecidableEq

/-- How much of the course lies before the place. -/
def Place.position : Place → Nat
  | .between attempts => 3 * attempts
  | .pending attempts => 3 * attempts + 1
  | .inFlight attempts => 3 * attempts + 2
  | .grace => 16

/-- The attempts that have been scheduled. -/
def Place.scheduled : Place → Nat
  | .between attempts => attempts
  | .pending attempts | .inFlight attempts => attempts + 1
  | .grace => 5

/-- The place is one of the course. -/
def Place.Valid : Place → Prop
  | .between attempts => attempts ≤ 5
  | .pending attempts | .inFlight attempts => attempts < 5
  | .grace => True

/-- The ticket of the attempt that follows some. -/
def ticketAfter (identity attempts : Nat) : ReconnectAttemptTicket where
  sequence := identity
  generation := 1
  attempt := attempts + 1
  delay := reconnectAttemptDelays.getD attempts 0
  elapsed := (reconnectAttemptDelays.take (attempts + 1)).sum

/-- An active sequence at a place of its course. -/
def standing (place : Place) : ReconnectAttemptSequence where
  identity := identity
  generation := 1
  nextIndex := place.scheduled
  elapsed := (reconnectAttemptDelays.take place.scheduled).sum
  active := true
  exhausted := false
  pending :=
    match place with
    | .pending attempts => some (ticketAfter identity attempts)
    | .between _ | .inFlight _ | .grace => none
  inFlight :=
    match place with
    | .inFlight attempts => some (ticketAfter identity attempts)
    | .between _ | .pending _ | .grace => none
  journal := course.take place.position

theorem start_eq : start identity = standing identity (.between 0) := rfl

variable {attempts : Nat}

/-- Before an attempt its beginning is what follows on the course. -/
theorem course_pending (h : attempts < 5) :
    course[(Place.pending attempts).position]? =
      some (.begun (ticketAfter identity attempts).attempt) := by
  interval_cases attempts <;> rfl

/-- In an attempt its completion is what follows on the course. -/
theorem course_inFlight (h : attempts < 5) :
    course[(Place.inFlight attempts).position]? =
      some (.completed (ticketAfter identity attempts).attempt) := by
  interval_cases attempts <;> rfl

/-- Between two attempts the next one is scheduled. -/
theorem scheduleNext_between (h : attempts < 5) :
    (standing identity (.between attempts)).scheduleNext =
      (standing identity (.pending attempts), some (ticketAfter identity attempts)) := by
  interval_cases attempts <;> rfl

variable {place : Place}

/-- Nothing more is scheduled before an attempt, in one or in the final grace. -/
theorem scheduleNext_refused (h : ∀ attempts, place ≠ .between attempts) (hvalid : place.Valid) :
    (standing identity place).scheduleNext = (standing identity place, none) := by
  cases place with
  | between attempts => exact absurd rfl (h attempts)
  | pending attempts =>
    have hlt : attempts < 5 := hvalid
    interval_cases attempts <;> rfl
  | inFlight attempts =>
    have hlt : attempts < 5 := hvalid
    interval_cases attempts <;> rfl
  | grace => rfl

/-- The attempt of the ticket that waits begins. -/
theorem begin_pending (identity attempts : Nat) (h : attempts < 5) :
    (standing identity (.pending attempts)).begin (ticketAfter identity attempts) =
      (standing identity (.inFlight attempts), true) := by
  have hpending : ¬ ((standing identity (.pending attempts)).isCurrent
      (ticketAfter identity attempts) = false ∨
      (standing identity (.pending attempts)).pending ≠ some (ticketAfter identity attempts)) := by
    rintro (hcurrent | hother)
    · cases hcurrent
    · exact hother rfl
  unfold begin
  rw [if_neg hpending]
  interval_cases attempts <;> rfl

/-- The attempt that is going on is over. -/
theorem complete_inFlight (identity attempts : Nat) (h : attempts < 5) :
    (standing identity (.inFlight attempts)).complete (ticketAfter identity attempts) =
      (standing identity (.between (attempts + 1)), true) := by
  have hinFlight : ¬ ((standing identity (.inFlight attempts)).isCurrent
      (ticketAfter identity attempts) = false ∨
      (standing identity (.inFlight attempts)).inFlight ≠
        some (ticketAfter identity attempts)) := by
    rintro (hcurrent | hother)
    · cases hcurrent
    · exact hother rfl
  unfold complete
  rw [if_neg hinFlight]
  interval_cases attempts <;> rfl

/-- All attempts are over exactly after the fifth. -/
theorem allAttemptsCompleted_between {identity attempts : Nat} (h : attempts ≤ 5) :
    (standing identity (.between attempts)).allAttemptsCompleted = true ↔ attempts = 5 := by
  interval_cases attempts <;> simp [allAttemptsCompleted, standing, Place.scheduled,
    reconnectAttemptDelays]

/-! ## Sequences that have ended -/

/-- A sequence that has ended: it is exhausted at the end of its course, or its course was broken
off by a recovery or by a cancellation. -/
structure Ended (q : ReconnectAttemptSequence) : Prop where
  inactive : q.active = false
  course : (q.exhausted = true ∧ q.journal = course) ∨
    (q.exhausted = false ∧ ∃ position ≤ 16,
      q.journal = course.take position ++ [.recovered] ∨
        q.journal = course.take position ++ [.cancelled])

/-- Nothing happens any more to a sequence that has ended. -/
structure Refuses (q : ReconnectAttemptSequence) : Prop where
  scheduleNext : q.scheduleNext = (q, none)
  begin : ∀ ticket, q.begin ticket = (q, false)
  complete : ∀ ticket, q.complete ticket = (q, false)
  expire : q.expire = (q, false)
  invalidate : ∀ ending, q.invalidate ending = q

theorem Ended.refuses {q : ReconnectAttemptSequence} (h : q.Ended) : q.Refuses where
  scheduleNext := by
    unfold ReconnectAttemptSequence.scheduleNext
    cases reconnectAttemptDelays[q.nextIndex]? with
    | none => rfl
    | some delay => exact if_pos (.inl h.inactive)
  begin ticket := by
    refine if_pos (.inl ?_)
    rw [isCurrent, h.inactive, Bool.false_and]
  complete ticket := by
    refine if_pos (.inl ?_)
    rw [isCurrent, h.inactive, Bool.false_and]
  expire := by
    refine if_pos ?_
    rw [allAttemptsCompleted, h.inactive, Bool.false_and, Bool.false_and, Bool.false_and]
  invalidate ending := if_pos h.inactive

theorem Place.Valid.position_le (h : place.Valid) : place.position ≤ 16 := by
  cases place with
  | between attempts =>
    have hle : attempts ≤ 5 := h
    show 3 * attempts ≤ 16
    omega
  | pending attempts =>
    have hlt : attempts < 5 := h
    show 3 * attempts + 1 ≤ 16
    omega
  | inFlight attempts =>
    have hlt : attempts < 5 := h
    show 3 * attempts + 2 ≤ 16
    omega
  | grace => exact le_rfl

theorem recovered_ended (h : place.Valid) :
    (standing identity place).recovered.Ended :=
  ⟨rfl, .inr ⟨rfl, place.position, h.position_le, .inl rfl⟩⟩

theorem cancel_ended (h : place.Valid) :
    (standing identity place).cancel.Ended :=
  ⟨rfl, .inr ⟨rfl, place.position, h.position_le, .inr rfl⟩⟩

/-- The final grace ends in exhaustion. -/
theorem expire_grace :
    (standing identity .grace).expire.2 = true ∧ (standing identity .grace).expire.1.Ended :=
  ⟨rfl, rfl, .inl ⟨rfl, rfl⟩⟩

end ReconnectAttemptSequence

end Client

end Roammand
