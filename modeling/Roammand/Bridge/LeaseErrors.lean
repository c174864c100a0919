import Roammand.Bridge.Lease

/-!
# Privileged bridge: what a refused lease operation leaves behind

An operation of the lease manager that fails should leave the manager as it was, apart from an
expired lease, which it drops.  The renewal writes the time of the renewal before it computes
the new expiry: where the expiry does not fit its type, the operation fails and leaves a lease
whose renewal time has moved and whose expiry has not.

Main results:

- Definition `LeaseManager.overflowsRenewal`: the renewals that fail after the first write.
- Definition `LeaseManager.Outcome` with theorem `step_outcome`: every other operation.
- Theorem `LeaseManager.error_atomicity`: an operation is atomic, and the expiry of a run stays
  with its renewals, exactly when no renewal of that kind is asked for.
- Theorem `LeaseManager.renewal_half_written`: a run that ends in such a renewal.
-/

namespace Roammand

namespace Bridge

open Library

/-- The error an operation has answered with. -/
def LeaseReply.error : LeaseReply → Option LeaseError
  | .connected (.error e) | .acquired (.error e) | .renewed (.error e) | .authorized (.error e)
  | .released (.error e) => some e
  | _ => none

namespace LeaseManager

/-- A renewal that passes every check and whose new expiry does not fit its type. -/
def overflowsRenewal (m : LeaseManager) : LeaseOp → Bool
  | .renew id generation nowMs => m.active.any fun lease =>
    decide (generation = lease.generation ∧ id = lease.id ∧ nowMs < lease.expiresAtMs) &&
      (checkedAdd lease.lastRenewedAtMs renewIntervalMs).any (fun next => next ≤ nowMs) &&
        (checkedAdd nowMs leaseDurationMs).isNone
  | _ => false

/-- A failure changes nothing, except that an expired lease becomes the one released last. -/
def Atomic (m : LeaseManager) (op : LeaseOp) : Prop :=
  ∀ error, (machine.step m op).2.error = some error →
    (error ≠ .leaseExpired → (machine.step m op).1 = m) ∧
    (error = .leaseExpired → ∀ lease, m.active = some lease →
      (∃ now, op.time = some now ∧ lease.expiresAtMs ≤ now) ∧
        (machine.step m op).1 =
          { m with active := none, lastReleased := some (lease.id, lease.generation) }) ∧
    (error = .leaseExpired → m.active = none → (machine.step m op).1 = m)

/-- The active lease expires one lease duration after its last renewal. -/
def Dated (m : LeaseManager) : Prop :=
  ∀ lease ∈ m.active, lease.expiresAtMs = lease.lastRenewedAtMs + leaseDurationMs

/-- What an operation leaves behind, with the error it answers. -/
inductive Outcome (m : LeaseManager) (op : LeaseOp) : LeaseManager → Option LeaseError → Prop
  | accepted {m' : LeaseManager} (hdated : ∀ lease ∈ m'.active, lease.expiresAtMs ≤ u64Max ∧
      lease.expiresAtMs = lease.lastRenewedAtMs + leaseDurationMs ∨
        ∃ earlier ∈ m.active, lease.expiresAtMs = earlier.expiresAtMs ∧
          lease.lastRenewedAtMs = earlier.lastRenewedAtMs) : Outcome m op m' none
  | refused (error : LeaseError) (hactive : m.active ≠ none → error ≠ .leaseExpired) :
      Outcome m op m (some error)
  | expired {lease : Lease} {now : Nat} (hactive : m.active = some lease)
      (htime : op.time = some now) (hpast : lease.expiresAtMs ≤ now) :
      Outcome m op { m with active := none, lastReleased := some (lease.id, lease.generation) }
        (some .leaseExpired)

variable {m : LeaseManager}

theorem freezeActive_eq {lease : Lease} (hactive : m.active = some lease) :
    m.freezeActive.1 =
      { m with active := none, lastReleased := some (lease.id, lease.generation) } := by
  unfold freezeActive
  rw [hactive]

/-- An operation that leaves no lease leaves none with a wrong date. -/
theorem Outcome.of_none {m m' : LeaseManager} {op : LeaseOp} (hnone : m'.active = none) :
    Outcome m op m' none := by
  refine .accepted fun lease hlease => ?_
  rw [hnone] at hlease
  cases hlease

/-- An operation that keeps the lease keeps its dates. -/
theorem Outcome.of_same {m m' : LeaseManager} {op : LeaseOp} (hsame : m'.active = m.active) :
    Outcome m op m' none := by
  refine .accepted fun lease hlease => .inr ⟨lease, ?_, rfl, rfl⟩
  rw [← hsame]
  exact hlease

theorem connectHost_outcome (m : LeaseManager) (generation : Nat) :
    Outcome m (.connectHost generation) (machine.step m (.connectHost generation)).1
      (machine.step m (.connectHost generation)).2.error := by
  change Outcome m _ (m.connectHost generation).1
    (LeaseReply.error (.connected (m.connectHost generation).2))
  unfold connectHost
  split_ifs
  · exact .refused _ fun _ => nofun
  · exact .refused _ fun _ => nofun
  · exact .of_same rfl

theorem acquire_outcome (m : LeaseManager) (request : AcquireLease) (nowMs : Nat)
    (nextLeaseId : Except LeaseError Bytes16) :
    Outcome m (.acquire request nowMs nextLeaseId)
      (machine.step m (.acquire request nowMs nextLeaseId)).1
      (machine.step m (.acquire request nowMs nextLeaseId)).2.error := by
  change Outcome m _ (m.acquire request nowMs nextLeaseId).1
    (LeaseReply.error (.acquired (m.acquire request nowMs nextLeaseId).2))
  unfold acquire
  cases m.hostGeneration with
  | none => exact .refused _ fun _ => nofun
  | some hostGeneration =>
    by_cases hactive : m.active.isSome = true
    · simp only [hactive, if_true]
      exact .refused _ fun _ => nofun
    have hfree : ∀ error : LeaseError, m.active ≠ none → error ≠ .leaseExpired :=
      fun error hsome => absurd (Option.isSome_iff_ne_none.mpr hsome) hactive
    simp only [hactive, Bool.false_eq_true, if_false]
    by_cases hstale : request.generation ≠ hostGeneration
    · rw [if_pos hstale]
      exact .refused _ (hfree _)
    rw [if_neg hstale]
    cases validateControllerName request.controllerDisplayName with
    | error e => exact .refused _ (hfree _)
    | ok _ =>
      cases nextLeaseId with
      | error e => exact .refused _ (hfree _)
      | ok id =>
        by_cases hzero : id = zeroBytes16
        · simp only [hzero, if_true]
          exact .refused _ (hfree _)
        simp only [hzero, if_false]
        cases hadd : checkedAdd nowMs leaseDurationMs with
        | none => exact .refused _ (hfree _)
        | some expiresAtMs =>
          obtain ⟨hrange, rfl⟩ := checkedAdd_eq_some.mp hadd
          refine .accepted fun lease hlease => .inl ?_
          cases hlease
          exact ⟨hrange, rfl⟩

theorem renew_outcome {id : Bytes16} {generation nowMs : Nat}
    (hfits : m.overflowsRenewal (.renew id generation nowMs) = false) :
    Outcome m (.renew id generation nowMs) (machine.step m (.renew id generation nowMs)).1
      (machine.step m (.renew id generation nowMs)).2.error := by
  change Outcome m _ (m.renew id generation nowMs).1
    (LeaseReply.error (.renewed (m.renew id generation nowMs).2))
  unfold overflowsRenewal at hfits
  unfold renew
  cases hactive : m.active with
  | none => exact .refused _ fun hsome => absurd hactive hsome
  | some lease =>
    rw [hactive] at hfits
    dsimp only
    cases hvalid : validateActiveRef lease id generation with
    | error e => exact .refused _ fun _ => validateActiveRef_error hvalid
    | ok _ =>
      obtain ⟨rfl, rfl⟩ := validateActiveRef_ok hvalid
      by_cases hpast : lease.expiresAtMs ≤ nowMs
      · simp only [hpast, if_true]
        rw [freezeActive_eq hactive]
        exact .expired hactive rfl hpast
      simp only [hpast, if_false]
      cases hinterval : checkedAdd lease.lastRenewedAtMs renewIntervalMs with
      | none => exact .refused _ fun _ => nofun
      | some nextRenewal =>
        by_cases hsoon : nowMs < nextRenewal
        · simp only [hsoon, if_true]
          exact .refused _ fun _ => nofun
        simp only [hsoon, if_false]
        cases hadd : checkedAdd nowMs leaseDurationMs with
        | none =>
          simp [hinterval, hadd] at hfits
          omega
        | some expiresAtMs =>
          obtain ⟨hrange, rfl⟩ := checkedAdd_eq_some.mp hadd
          refine .accepted fun renewed hrenewed => .inl ?_
          cases hrenewed
          exact ⟨hrange, rfl⟩

theorem authorizeCommand_outcome (m : LeaseManager) (id : Bytes16)
    (generation sequence nowMs : Nat) :
    Outcome m (.authorizeCommand id generation sequence nowMs)
      (machine.step m (.authorizeCommand id generation sequence nowMs)).1
      (machine.step m (.authorizeCommand id generation sequence nowMs)).2.error := by
  change Outcome m _ (m.authorizeCommand id generation sequence nowMs).1
    (LeaseReply.error (.authorized (m.authorizeCommand id generation sequence nowMs).2))
  unfold authorizeCommand
  cases hactive : m.active with
  | none => exact .refused _ fun hsome => absurd hactive hsome
  | some lease =>
    dsimp only
    cases hvalid : validateActiveRef lease id generation with
    | error e => exact .refused _ fun _ => validateActiveRef_error hvalid
    | ok _ =>
      by_cases hpast : lease.expiresAtMs ≤ nowMs
      · simp only [hpast, if_true]
        rw [freezeActive_eq hactive]
        exact .expired hactive rfl hpast
      simp only [hpast, if_false]
      cases checkedAdd lease.lastCommandSequence 1 with
      | none => exact .refused _ fun _ => nofun
      | some expected =>
        dsimp only
        by_cases hnext : sequence ≠ expected
        · rw [if_pos hnext]
          exact .refused _ fun _ => nofun
        · rw [if_neg hnext]
          refine .accepted fun next hlease => .inr ⟨lease, hactive, ?_⟩
          cases hlease
          exact ⟨rfl, rfl⟩

theorem releaseOrClose_outcome (m : LeaseManager) (op : LeaseOp) (id : Bytes16) (generation : Nat) :
    Outcome m op (m.releaseOrClose id generation).1
      (LeaseReply.error (.released (m.releaseOrClose id generation).2)) := by
  unfold releaseOrClose
  cases hactive : m.active with
  | none =>
    simp only
    split_ifs
    · exact .of_same rfl
    · exact .refused _ fun _ => nofun
  | some lease =>
    dsimp only
    cases hvalid : validateActiveRef lease id generation with
    | error e => exact .refused _ fun _ => validateActiveRef_error hvalid
    | ok _ => exact .of_none (freezeActive_active m)

theorem expire_outcome (m : LeaseManager) (nowMs : Nat) :
    Outcome m (.expire nowMs) (machine.step m (.expire nowMs)).1
      (machine.step m (.expire nowMs)).2.error := by
  change Outcome m _ (m.expire nowMs).1 none
  unfold expire
  cases hactive : m.active with
  | none => exact .of_same rfl
  | some lease =>
    simp only
    split_ifs
    · exact .of_none (freezeActive_active m)
    · exact .of_same rfl

variable {op : LeaseOp}

/-- Every operation but a renewal whose expiry does not fit. -/
theorem step_outcome (hfits : m.overflowsRenewal op = false) :
    Outcome m op (machine.step m op).1 (machine.step m op).2.error := by
  cases op with
  | connectHost generation => exact connectHost_outcome m generation
  | disconnectHost => exact .of_none (freezeActive_active _)
  | acquire request nowMs nextLeaseId => exact acquire_outcome m request nowMs nextLeaseId
  | renew id generation nowMs => exact renew_outcome hfits
  | authorizeCommand id generation sequence nowMs =>
    exact authorizeCommand_outcome m id generation sequence nowMs
  | release id generation => exact releaseOrClose_outcome m _ id generation
  | close id generation => exact releaseOrClose_outcome m _ id generation
  | expire nowMs => exact expire_outcome m nowMs

/-- A renewal whose expiry does not fit moves the renewal time and fails. -/
theorem step_overflows (h : m.overflowsRenewal op = true) :
    ∃ lease now, m.active = some lease ∧ lease.lastRenewedAtMs < now ∧
      u64Max < now + leaseDurationMs ∧
      (machine.step m op).1 = { m with active := some { lease with lastRenewedAtMs := now } } ∧
      (machine.step m op).2.error = some .timestampOverflow := by
  cases op with
  | renew id generation nowMs =>
    unfold overflowsRenewal at h
    cases hactive : m.active with
    | none =>
      rw [hactive] at h
      cases h
    | some lease =>
      rw [hactive] at h
      simp only [Option.any_some, Bool.and_eq_true, decide_eq_true_eq,
        Option.isNone_iff_eq_none] at h
      obtain ⟨⟨⟨rfl, rfl, hbefore⟩, hinterval⟩, hadd⟩ := h
      cases hnext : checkedAdd lease.lastRenewedAtMs renewIntervalMs with
      | none =>
        rw [hnext] at hinterval
        cases hinterval
      | some nextRenewal =>
        rw [hnext] at hinterval
        have hready : nextRenewal ≤ nowMs := by simpa using hinterval
        have hlater : lease.lastRenewedAtMs < nowMs := by
          have hsum := (checkedAdd_eq_some.mp hnext).2
          unfold renewIntervalMs at hsum
          omega
        have hrenew : m.renew lease.id lease.generation nowMs =
            ({ m with active := some { lease with lastRenewedAtMs := nowMs } },
              .error .timestampOverflow) := by
          unfold renew
          rw [hactive]
          simp only [validateActiveRef, ne_eq, not_true_eq_false, if_false,
            Nat.not_le_of_lt hbefore, hnext, Nat.not_lt_of_le hready, hadd]
        refine ⟨lease, nowMs, rfl, hlater, checkedAdd_eq_none.mp hadd, ?_, ?_⟩
        · change (m.renew lease.id lease.generation nowMs).1 = _
          rw [hrenew]
        · change LeaseReply.error (.renewed (m.renew _ _ nowMs).2) = _
          rw [hrenew]
          rfl
  | connectHost | disconnectHost | acquire | authorizeCommand | release | close | expire =>
    cases h

/-! ## Atomicity -/

/-- An operation is atomic exactly if it is no renewal whose expiry does not fit. -/
theorem atomic_iff (m : LeaseManager) (op : LeaseOp) :
    Atomic m op ↔ m.overflowsRenewal op = false := by
  constructor
  · intro hatomic
    by_contra hover
    obtain ⟨lease, now, hactive, hlater, _, hafter, herror⟩ :=
      step_overflows (Bool.of_not_eq_false hover)
    have hsame := (hatomic _ herror).1 nofun
    rw [hafter] at hsame
    have hlease := congrArg LeaseManager.active hsame
    rw [hactive] at hlease
    have htime := congrArg Lease.lastRenewedAtMs (Option.some.inj hlease)
    change now = lease.lastRenewedAtMs at htime
    omega
  · intro hfits error herror
    have houtcome := step_outcome hfits
    rw [herror] at houtcome
    generalize (machine.step m op).1 = m' at houtcome
    cases houtcome with
    | refused _ hactive =>
      refine ⟨fun _ => rfl, fun hexpired lease hlease => ?_, fun _ _ => rfl⟩
      exact absurd hexpired (hactive (by rw [hlease]; nofun))
    | expired hactive htime hpast =>
      refine ⟨fun hne => absurd rfl hne, fun _ lease hlease => ?_, fun _ hnone => ?_⟩
      · obtain rfl := Option.some.inj (hactive.symm.trans hlease)
        exact ⟨⟨_, htime, hpast⟩, rfl⟩
      · rw [hactive] at hnone
        cases hnone

/-- The dates of the active lease agree and fit their type. -/
def Representable (m : LeaseManager) : Prop :=
  Dated m ∧ ∀ lease ∈ m.active, lease.expiresAtMs ≤ u64Max

variable (brokerInstanceId : Bytes16)

theorem representable_new :
    Representable (.new brokerInstanceId) :=
  ⟨fun _ hlease => (Option.not_mem_none _ hlease).elim,
    fun _ hlease => (Option.not_mem_none _ hlease).elim⟩

theorem Representable.step {m : LeaseManager} {op : LeaseOp} (h : Representable m)
    (hfits : m.overflowsRenewal op = false) : Representable (machine.step m op).1 := by
  have houtcome := step_outcome hfits
  generalize (machine.step m op).1 = m' at houtcome ⊢
  generalize (machine.step m op).2.error = error at houtcome
  cases houtcome with
  | accepted hdated =>
    constructor
    · intro lease hlease
      rcases hdated lease hlease with ⟨_, hexpiry⟩ | ⟨earlier, hearlier, hexpiry, hrenewal⟩
      · exact hexpiry
      · rw [hexpiry, hrenewal]
        exact h.1 earlier hearlier
    · intro lease hlease
      rcases hdated lease hlease with ⟨hrange, _⟩ | ⟨earlier, hearlier, hexpiry, _⟩
      · exact hrange
      · rw [hexpiry]
        exact h.2 earlier hearlier
  | refused => exact h
  | expired => exact ⟨nofun, nofun⟩

/-- A renewal whose expiry does not fit leaves the expiry behind its renewal. -/
theorem Representable.not_dated (h : Representable m)
    (hover : m.overflowsRenewal op = true) : ¬ Dated (machine.step m op).1 := by
  obtain ⟨lease, now, hactive, _, hrange, hafter, _⟩ := step_overflows hover
  intro hdated
  rw [hafter] at hdated
  have hexpiry : lease.expiresAtMs = now + leaseDurationMs := hdated _ rfl
  have hbound := h.2 lease hactive
  omega

/-- The dates agree all along a run exactly if no renewal's expiry fails to fit. -/
theorem dated_iff (h : Representable m) (ops : List LeaseOp) :
    (∀ e ∈ machine.trace m ops, Dated e.after) ↔
      machine.Guarded (fun m op => m.overflowsRenewal op = false) m ops := by
  induction ops generalizing m with
  | nil => simp
  | cons op ops ih =>
    simp only [Machine.trace_cons, List.forall_mem_cons, Machine.guarded_cons,
      Machine.occurrence_after]
    by_cases hfits : m.overflowsRenewal op = false
    · rw [ih (h.step hfits)]
      exact and_congr_left fun _ => ⟨fun _ => hfits, fun _ => (h.step hfits).1⟩
    · exact ⟨fun hall => absurd hall.1 (h.not_dated (Bool.of_not_eq_false hfits)),
        fun hall => absurd hall.1 hfits⟩

/-- Every operation in every state at every time is atomic, and in every run the active lease
expires one lease duration after its last renewal, exactly when no renewal is asked for whose
new expiry does not fit its type. -/
theorem error_atomicity (ops : List LeaseOp) :
    (∀ m op, Atomic m op ↔ m.overflowsRenewal op = false) ∧
      ((∀ e ∈ machine.trace (.new brokerInstanceId) ops, Dated e.after) ↔
        machine.Guarded (fun m op => m.overflowsRenewal op = false) (.new brokerInstanceId)
          ops) :=
  ⟨atomic_iff, dated_iff (representable_new brokerInstanceId) ops⟩

/-- A lease granted at the last time at which its expiry fits, and its renewal. -/
def sampleOverflow : List LeaseOp :=
  [.connectHost 3,
    .acquire { sessionId := Vector.replicate 16 9, generation := 3
               controllerDisplayName := "phone", mayControlInput := true }
      18446744073709536615 (.ok (Vector.replicate 16 7)),
    .renew (Vector.replicate 16 7) 3 18446744073709541615]

/-- The renewal fails, has moved the renewal time and has left the expiry. -/
theorem renewal_half_written :
    (∃ e ∈ machine.trace (.new zeroBytes16) sampleOverflow,
      e.output.error = some .timestampOverflow ∧ ¬ Atomic e.before e.input) ∧
    ∃ lease, (machine.run (.new zeroBytes16) sampleOverflow).active = some lease ∧
      lease.lastRenewedAtMs = 18446744073709541615 ∧
      lease.expiresAtMs = 18446744073709551615 := by
  have hover : (machine.run (.new zeroBytes16) (sampleOverflow.take 2)).overflowsRenewal
      (.renew (Vector.replicate 16 7) 3 18446744073709541615) = true := by
    decide
  refine ⟨⟨machine.occurrence (machine.run (.new zeroBytes16) (sampleOverflow.take 2))
    (.renew (Vector.replicate 16 7) 3 18446744073709541615), ?_, rfl, fun hatomic => ?_⟩,
    _, rfl, rfl, rfl⟩
  · exact List.mem_cons_of_mem _ (List.mem_cons_of_mem _ List.mem_cons_self)
  · have hfits := (atomic_iff _ _).mp hatomic
    change (machine.run (.new zeroBytes16) (sampleOverflow.take 2)).overflowsRenewal
      (.renew (Vector.replicate 16 7) 3 18446744073709541615) = false at hfits
    rw [hover] at hfits
    cases hfits

end LeaseManager

end Bridge

end Roammand
