import Roammand.Server.RateLimiter

/-!
# The limits on inbound traffic

Every frame that a connection of the signaling service receives is charged to three windows: one
of the whole server, one of the source address and one of the connection.  Frames that are
refused are charged as well, so that a flood does not earn new traffic by being refused.  The
counters stop at their limits.  The windows of the addresses are kept in a table with a cap; a
frame from a new address is refused when the table is full, and is then charged to the server
and to the connection only.

Main results:

- Definitions `TrafficLimiter.allow`, `TrafficLimiter.sweep` and `Inbound.allowInbound`.
- Theorem `Inbound.traffic_limited`: the bounds, the exhausted windows and the sweeps over every
  run.
-/

namespace Roammand

namespace Server

open Library List Machine

/-! ## The limiter -/

/-- When a window began, and the frames and bytes that were charged to it. -/
structure TrafficWindow where
  startedAt : Time
  frames : Nat
  bytes : Int

/-- A window that has not begun. -/
def TrafficWindow.zero : TrafficWindow := ⟨0, 0, 0⟩

/-- The limits of the inbound traffic. -/
structure InboundLimits where
  window : Int
  framesPerConnection : Nat
  bytesPerConnection : Nat
  framesPerIP : Nat
  bytesPerIP : Nat
  framesGlobal : Nat
  bytesGlobal : Nat
  ipWindowCapacity : Nat
  window_pos : 0 < window
  framesPerIP_pos : 0 < framesPerIP
  bytesPerIP_pos : 0 < bytesPerIP
  framesGlobal_pos : 0 < framesGlobal
  bytesGlobal_pos : 0 < bytesGlobal
  ipWindowCapacity_pos : 0 < ipWindowCapacity

/-- The window is over. -/
def TrafficWindow.over (window : TrafficWindow) (now : Time) (duration : Int) : Bool :=
  decide (¬ now < window.startedAt + duration)

/-- The window, or a fresh one if it is over. -/
def currentTrafficWindow (window : TrafficWindow) (now : Time) (duration : Int) : TrafficWindow :=
  if window.startedAt = 0 ∨ window.over now duration then ⟨now, 0, 0⟩ else window

/-- A frame fits into what is left of a window. -/
def trafficWithinLimit (window : TrafficWindow) (frameBytes : Int) (maxFrames : Nat)
    (maxBytes : Int) : Bool :=
  decide (window.frames < maxFrames) && decide (frameBytes ≤ maxBytes - window.bytes)

/-- Charge a frame to a window, up to its limits. -/
def consumeTraffic (window : TrafficWindow) (frameBytes : Int) (maxFrames : Nat)
    (maxBytes : Int) : TrafficWindow where
  startedAt := window.startedAt
  frames := if window.frames < maxFrames then window.frames + 1 else window.frames
  bytes := if frameBytes ≥ maxBytes - window.bytes then maxBytes else window.bytes + frameBytes

/-- The windows of the server and of the source addresses. -/
structure TrafficLimiter where
  global : TrafficWindow
  ipWindows : Table String TrafficWindow

namespace TrafficLimiter

/-- There is no room for a window of the address. -/
def full (limits : InboundLimits) (l : TrafficLimiter) (ip : String) : Bool :=
  l.ipWindows.full limits.ipWindowCapacity ip

/-- Charge a frame to the server and to its source address. -/
def allow (limits : InboundLimits) (l : TrafficLimiter) (ip : String) (frameBytes : Int)
    (now : Time) : TrafficLimiter × Bool :=
  if frameBytes < 0 then (l, false)
  else
    let global := currentTrafficWindow l.global now limits.window
    let globalAllowed :=
      trafficWithinLimit global frameBytes limits.framesGlobal limits.bytesGlobal
    let global := consumeTraffic global frameBytes limits.framesGlobal limits.bytesGlobal
    if l.full limits ip then ({ l with global }, false)
    else
      let ipWindow := (l.ipWindows.lookup ip).getD .zero
      let ipWindow := currentTrafficWindow ipWindow now limits.window
      let ipAllowed := trafficWithinLimit ipWindow frameBytes limits.framesPerIP limits.bytesPerIP
      let ipWindow := consumeTraffic ipWindow frameBytes limits.framesPerIP limits.bytesPerIP
      ({ global, ipWindows := l.ipWindows.insert ip ipWindow }, globalAllowed && ipAllowed)

/-- Take out the windows that are over. -/
def sweep (limits : InboundLimits) (l : TrafficLimiter) (order : RangeOrder String) (now : Time) :
    TrafficLimiter where
  global :=
    if l.global.startedAt ≠ 0 ∧ l.global.over now limits.window then .zero else l.global
  ipWindows := l.ipWindows.deleteWhere order fun window => window.over now limits.window

end TrafficLimiter

/-- The limiter with the windows of the connections. -/
structure Inbound where
  limiter : TrafficLimiter
  inbound : Nat → TrafficWindow

namespace Inbound

/-- Nothing has been received. -/
def new : Inbound where
  limiter := { global := .zero, ipWindows := ∅ }
  inbound _ := .zero

/-- Charge a frame of a connection to the three windows. -/
def allowInbound (limits : InboundLimits) (remoteIP : Nat → String) (s : Inbound)
    (connection : Nat) (frameBytes : Int) (now : Time) : Inbound × Bool :=
  let (limiter, sharedAllowed) := s.limiter.allow limits (remoteIP connection) frameBytes now
  let window := currentTrafficWindow (s.inbound connection) now limits.window
  let connectionAllowed :=
    trafficWithinLimit window frameBytes limits.framesPerConnection limits.bytesPerConnection
  let window :=
    consumeTraffic window frameBytes limits.framesPerConnection limits.bytesPerConnection
  ({ limiter, inbound := Function.update s.inbound connection window },
    sharedAllowed && connectionAllowed)

/-- A frame of a connection, or a sweep. -/
inductive Call where
  | frame (connection : Nat) (frameBytes : Int) (now : Time)
  | sweep (order : RangeOrder String) (now : Time)

/-- The time of a call. -/
def Call.now : Call → Time
  | .frame _ _ now => now
  | .sweep _ now => now

/-- The bytes of a frame. -/
def Call.frameBytes : Call → Int
  | .frame _ frameBytes _ => frameBytes
  | .sweep .. => 0

/-- One call, with the verdict on a frame. -/
def step (limits : InboundLimits) (remoteIP : Nat → String) (s : Inbound) :
    Call → Inbound × Option Bool
  | .frame connection frameBytes now =>
    let (s, allowed) := s.allowInbound limits remoteIP connection frameBytes now
    (s, some allowed)
  | .sweep order now => ({ s with limiter := s.limiter.sweep limits order now }, none)

/-- The limits as a machine over the calls. -/
def machine (limits : InboundLimits) (remoteIP : Nat → String) :
    Machine Inbound Call (Option Bool) where
  step := step limits remoteIP

/-! ## Scopes -/

/-- What a window counts the frames of. -/
inductive Scope where
  | server
  | address (ip : String)
  | connection (id : Nat)

namespace Scope

/-- The window of a scope. -/
def window (s : Inbound) : Scope → TrafficWindow
  | .server => s.limiter.global
  | .address ip => (s.limiter.ipWindows.lookup ip).getD .zero
  | .connection id => s.inbound id

/-- The frame limit of a scope. -/
def maxFrames (limits : InboundLimits) : Scope → Nat
  | .server => limits.framesGlobal
  | .address _ => limits.framesPerIP
  | .connection _ => limits.framesPerConnection

/-- The byte limit of a scope. -/
def maxBytes (limits : InboundLimits) : Scope → Nat
  | .server => limits.bytesGlobal
  | .address _ => limits.bytesPerIP
  | .connection _ => limits.bytesPerConnection

/-- The call is a frame of the scope. -/
def concerns (remoteIP : Nat → String) : Scope → Call → Bool
  | .server, .frame .. => true
  | .address ip, .frame id _ _ => remoteIP id = ip
  | .connection id', .frame id _ _ => id = id'
  | _, .sweep .. => false

/-- The call is a frame that is charged to the scope's window. -/
def charges (limits : InboundLimits) (remoteIP : Nat → String) (s : Inbound) (scope : Scope)
    (call : Call) : Bool :=
  scope.concerns remoteIP call &&
    match scope with
    | .address ip => !s.limiter.full limits ip
    | _ => true

/-- The window that a frame of the scope is checked against. -/
def current (limits : InboundLimits) (s : Inbound) (scope : Scope) (now : Time) : TrafficWindow :=
  currentTrafficWindow (scope.window s) now limits.window

/-- A frame fits into what is left of the scope's window. -/
def within (limits : InboundLimits) (s : Inbound) (scope : Scope) (call : Call) : Bool :=
  trafficWithinLimit (scope.current limits s call.now) call.frameBytes (scope.maxFrames limits)
    (scope.maxBytes limits)

/-- The scope's window after a frame was charged to it. -/
def consumed (limits : InboundLimits) (s : Inbound) (scope : Scope) (call : Call) :
    TrafficWindow :=
  consumeTraffic (scope.current limits s call.now) call.frameBytes (scope.maxFrames limits)
    (scope.maxBytes limits)

end Scope

section calls

variable {limits : InboundLimits} {remoteIP : Nat → String} {s : Inbound}

/-- What a frame does to the window of a scope, and what its verdict says about it. -/
structure Charged (limits : InboundLimits) (remoteIP : Nat → String) (s : Inbound) (call : Call)
    (scope : Scope) (s' : Inbound) (verdict : Option Bool) : Prop where
  charged : scope.charges limits remoteIP s call = true →
    scope.window s' = scope.consumed limits s call ∧
      (verdict = some true → scope.within limits s call = true) ∧
      (scope.within limits s call = false → verdict = some false)
  kept : scope.charges limits remoteIP s call = false →
    scope.window s' = scope.window s ∧
      (scope.concerns remoteIP call = true → verdict = some false)

theorem frame_charged (limits : InboundLimits) (remoteIP : Nat → String) (s : Inbound)
    (connection : Nat) (frameBytes : Int) (hbytes : 0 ≤ frameBytes) (now : Time) (scope : Scope) :
    Charged limits remoteIP s (.frame connection frameBytes now) scope
      (step limits remoteIP s (.frame connection frameBytes now)).1
      (step limits remoteIP s (.frame connection frameBytes now)).2 := by
  have hneg : ¬ frameBytes < 0 := not_lt.mpr hbytes
  simp only [step, allowInbound, TrafficLimiter.allow, if_neg hneg]
  by_cases hfull : s.limiter.full limits (remoteIP connection) = true
  · simp only [if_pos hfull]
    cases scope with
    | server =>
      refine ⟨fun _ => ⟨rfl, ?_, fun _ => rfl⟩, nofun⟩
      intro h
      cases h
    | address ip =>
      refine ⟨?_, fun _ => ⟨rfl, fun _ => rfl⟩⟩
      intro h
      rw [Scope.charges, Bool.and_eq_true] at h
      obtain ⟨hconcerns, hroom⟩ := h
      have hip : remoteIP connection = ip := of_decide_eq_true hconcerns
      rw [hip] at hfull
      simp [hfull] at hroom
    | connection connection' =>
      refine ⟨?_, ?_⟩
      · intro h
        have heq : connection = connection' := by
          simpa [Scope.charges, Scope.concerns] using h
        subst heq
        refine ⟨Function.update_self .., ?_, fun _ => rfl⟩
        intro h
        cases h
      · intro h
        have hne : connection ≠ connection' := by
          simpa [Scope.charges, Scope.concerns] using h
        exact ⟨Function.update_of_ne hne.symm .., fun _ => rfl⟩
  · simp only [if_neg hfull]
    cases scope with
    | server =>
      refine ⟨fun _ => ⟨rfl, ?_, ?_⟩, nofun⟩
      · intro h
        simp only [Option.some.injEq, Bool.and_eq_true] at h
        exact h.1.1
      · intro h
        change trafficWithinLimit _ _ _ _ = false at h
        rw [Option.some.injEq, Bool.and_eq_false_iff, Bool.and_eq_false_iff]
        exact .inl (.inl h)
    | address ip =>
      refine ⟨?_, ?_⟩
      · intro h
        rw [Scope.charges, Bool.and_eq_true] at h
        have hip : remoteIP connection = ip := of_decide_eq_true h.1
        subst hip
        refine ⟨?_, ?_, ?_⟩
        · simp only [Scope.window]
          rw [Finmap.lookup_insert]
          rfl
        · intro h
          simp only [Option.some.injEq, Bool.and_eq_true] at h
          exact h.1.2
        · intro h
          change trafficWithinLimit _ _ _ _ = false at h
          rw [Option.some.injEq, Bool.and_eq_false_iff, Bool.and_eq_false_iff]
          exact .inl (.inr h)
      · intro h
        have hne : remoteIP connection ≠ ip := by
          rintro rfl
          simp [Scope.charges, Scope.concerns, hfull] at h
        refine ⟨?_, fun h => absurd (of_decide_eq_true h) hne⟩
        simp only [Scope.window]
        rw [Finmap.lookup_insert_of_ne _ hne.symm]
    | connection connection' =>
      refine ⟨?_, ?_⟩
      · intro h
        have heq : connection = connection' := by
          simpa [Scope.charges, Scope.concerns] using h
        subst heq
        refine ⟨Function.update_self .., ?_, ?_⟩
        · intro h
          simp only [Option.some.injEq, Bool.and_eq_true] at h
          exact h.2
        · intro h
          change trafficWithinLimit _ _ _ _ = false at h
          rw [Option.some.injEq, Bool.and_eq_false_iff]
          exact .inr h
      · intro h
        have hne : connection ≠ connection' := by
          simpa [Scope.charges, Scope.concerns] using h
        exact ⟨Function.update_of_ne hne.symm .., fun h => absurd (of_decide_eq_true h) hne⟩

end calls

/-! ## One window -/

section windows

variable {duration : Int} {maxFrames maxBytes : Nat} {accepted : List (Time × Int)}
variable {w : TrafficWindow} {now : Time}

/-- The start of a window that has begun. -/
def begun (w : TrafficWindow) : Option Int := if w.startedAt = 0 then none else some w.startedAt

/-- Frames with their times and sizes keep the limits of one window. -/
def FitsWindow (maxFrames maxBytes : Nat) (frames : List (Time × Int)) : Prop :=
  frames.length ≤ maxFrames ∧ (frames.map Prod.snd).sum ≤ maxBytes

/-- The counters of a window cover the frames that were accepted, and stay within the limits. -/
structure Accounted (duration : Int) (maxFrames maxBytes : Nat) (accepted : List (Time × Int))
    (w : TrafficWindow) (now : Time) : Prop where
  filling : Filling Prod.fst duration (FitsWindow maxFrames maxBytes) accepted (begun w) now
  frames : w.startedAt ≠ 0 →
    (windowEntries Prod.fst duration w.startedAt accepted).length ≤ w.frames
  bytes : w.startedAt ≠ 0 →
    ((windowEntries Prod.fst duration w.startedAt accepted).map Prod.snd).sum ≤ w.bytes
  frames_le : w.frames ≤ maxFrames
  bytes_nonneg : 0 ≤ w.bytes
  bytes_le : w.bytes ≤ maxBytes

theorem begun_of_ne (h : w.startedAt ≠ 0) : begun w = some w.startedAt := if_neg h

theorem accounted_zero (now : Time) :
    Accounted duration maxFrames maxBytes [] .zero now :=
  ⟨filling_nil now, fun h => absurd rfl h, fun h => absurd rfl h, Nat.zero_le _, le_rfl,
    Int.natCast_nonneg _⟩

theorem Accounted.later (h : Accounted duration maxFrames maxBytes accepted w now) {now' : Time}
    (hnow : now ≤ now') : Accounted duration maxFrames maxBytes accepted w now' :=
  ⟨h.filling.later hnow, h.frames, h.bytes, h.frames_le, h.bytes_nonneg, h.bytes_le⟩

theorem traffic_over_iff : w.over now duration = true ↔ w.startedAt + duration ≤ now := by
  rw [TrafficWindow.over, decide_eq_true_eq, not_lt]

/-- A window that is over, or that has not begun, leaves nothing open. -/
theorem Accounted.ended (h : Accounted duration maxFrames maxBytes accepted w now)
    (hended : w.startedAt = 0 ∨ w.over now duration = true) :
    Filling Prod.fst duration (FitsWindow maxFrames maxBytes) accepted none now := by
  have hfilling := h.filling
  by_cases hzero : w.startedAt = 0
  · rwa [begun, if_pos hzero] at hfilling
  · rw [begun_of_ne hzero] at hfilling
    rcases hended with hended | hover
    · exact absurd hended hzero
    · exact hfilling.close (traffic_over_iff.mp hover)

theorem Accounted.reset (h : Accounted duration maxFrames maxBytes accepted w now)
    (hover : w.over now duration = true) :
    Accounted duration maxFrames maxBytes accepted .zero now :=
  ⟨h.ended (.inr hover), fun h => absurd rfl h, fun h => absurd rfl h, Nat.zero_le _, le_rfl,
    Int.natCast_nonneg _⟩

theorem Accounted.current (h : Accounted duration maxFrames maxBytes accepted w now)
    (hnow : now ≠ 0) :
    Accounted duration maxFrames maxBytes accepted (currentTrafficWindow w now duration) now := by
  unfold currentTrafficWindow
  by_cases hended : w.startedAt = 0 ∨ w.over now duration = true
  · rw [if_pos hended]
    obtain ⟨hopen, hnone⟩ := (h.ended hended).open_window ⟨Nat.zero_le _, Int.natCast_nonneg _⟩
    rw [← begun_of_ne (w := ⟨now, 0, 0⟩) hnow] at hopen
    refine ⟨hopen, ?_, ?_, Nat.zero_le _, le_rfl, Int.natCast_nonneg _⟩
    · intro _
      rw [hnone]
      exact Nat.zero_le _
    · intro _
      rw [hnone]
      exact le_rfl
  · rw [if_neg hended]
    exact h

theorem current_startedAt_ne (hnow : now ≠ 0) :
    (currentTrafficWindow w now duration).startedAt ≠ 0 := by
  unfold currentTrafficWindow
  split_ifs with h
  · exact hnow
  · exact (not_or.mp h).1

theorem lt_current_end (hduration : 0 < duration) :
    now < (currentTrafficWindow w now duration).startedAt + duration := by
  unfold currentTrafficWindow
  split_ifs with h
  · exact lt_add_of_pos_right now hduration
  · rw [not_or, traffic_over_iff, not_le] at h
    exact h.2

section consumed

variable {frameBytes : Int}

theorem consumed_frames_le (h : w.frames ≤ maxFrames) :
    (consumeTraffic w frameBytes maxFrames maxBytes).frames ≤ maxFrames := by
  simp only [consumeTraffic]
  split_ifs with hlt
  · exact hlt
  · exact h

theorem le_consumed_frames :
    w.frames ≤ (consumeTraffic w frameBytes maxFrames maxBytes).frames := by
  simp only [consumeTraffic]
  split_ifs
  · exact Nat.le_succ _
  · exact le_rfl

theorem consumed_bytes_le : (consumeTraffic w frameBytes maxFrames maxBytes).bytes ≤ maxBytes := by
  simp only [consumeTraffic]
  split_ifs with h
  · exact le_rfl
  · omega

theorem le_consumed_bytes (hbytes : 0 ≤ frameBytes) (h : w.bytes ≤ maxBytes) :
    w.bytes ≤ (consumeTraffic w frameBytes maxFrames maxBytes).bytes := by
  simp only [consumeTraffic]
  split_ifs
  · exact h
  · exact le_add_of_nonneg_right hbytes

/-- A frame that fits is counted in full. -/
theorem consumed_of_within (hwithin : trafficWithinLimit w frameBytes maxFrames maxBytes = true) :
    (consumeTraffic w frameBytes maxFrames maxBytes).frames = w.frames + 1 ∧
      (consumeTraffic w frameBytes maxFrames maxBytes).bytes = w.bytes + frameBytes := by
  rw [trafficWithinLimit, Bool.and_eq_true, decide_eq_true_eq, decide_eq_true_eq] at hwithin
  simp only [consumeTraffic]
  rw [if_pos hwithin.1]
  refine ⟨rfl, ?_⟩
  split_ifs with h
  · omega
  · rfl

end consumed

/-- A frame that is refused is charged all the same. -/
theorem Accounted.refuse (h : Accounted duration maxFrames maxBytes accepted w now)
    {frameBytes : Int} (hbytes : 0 ≤ frameBytes) :
    Accounted duration maxFrames maxBytes accepted
      (consumeTraffic w frameBytes maxFrames maxBytes) now :=
  ⟨h.filling, fun hne => (h.frames hne).trans le_consumed_frames,
    fun hne => (h.bytes hne).trans (le_consumed_bytes hbytes h.bytes_le),
    consumed_frames_le h.frames_le,
    h.bytes_nonneg.trans (le_consumed_bytes hbytes h.bytes_le), consumed_bytes_le⟩

/-- A frame that fits is charged and accepted. -/
theorem Accounted.accept (h : Accounted duration maxFrames maxBytes accepted w now)
    (hbegun : w.startedAt ≠ 0) (hopen : now < w.startedAt + duration) {frameBytes : Int}
    (hbytes : 0 ≤ frameBytes)
    (hwithin : trafficWithinLimit w frameBytes maxFrames maxBytes = true) :
    Accounted duration maxFrames maxBytes (accepted ++ [(now, frameBytes)])
      (consumeTraffic w frameBytes maxFrames maxBytes) now := by
  obtain ⟨hframes, hsum⟩ := consumed_of_within hwithin
  have hrefused := h.refuse hbytes
  have hfilling := h.filling
  rw [begun_of_ne hbegun] at hfilling
  have hlength : (windowEntries Prod.fst duration w.startedAt accepted ++
      [(now, frameBytes)]).length
      ≤ (consumeTraffic w frameBytes maxFrames maxBytes).frames := by
    rw [length_append, length_singleton, hframes]
    exact Nat.succ_le_succ (h.frames hbegun)
  have htotal : ((windowEntries Prod.fst duration w.startedAt accepted ++
      [(now, frameBytes)]).map Prod.snd).sum
      ≤ (consumeTraffic w frameBytes maxFrames maxBytes).bytes := by
    rw [map_append, sum_append, hsum]
    simpa using h.bytes hbegun
  obtain ⟨hadmitted, hentries⟩ := hfilling.admit hopen rfl
    ⟨hlength.trans hrefused.frames_le, htotal.trans hrefused.bytes_le⟩
  refine ⟨?_, ?_, ?_, hrefused.frames_le, hrefused.bytes_nonneg, hrefused.bytes_le⟩
  · rw [begun_of_ne (w := consumeTraffic w frameBytes maxFrames maxBytes) hbegun]
    exact hadmitted
  · intro _
    change (windowEntries Prod.fst duration w.startedAt _).length ≤ _
    rw [hentries]
    exact hlength
  · intro _
    change ((windowEntries Prod.fst duration w.startedAt _).map Prod.snd).sum ≤ _
    rw [hentries]
    exact htotal

end windows

/-! ## Runs -/

/-- The history of the limits. -/
abbrev History := List (Occurrence Inbound Call (Option Bool))

/-- The frames of a scope that were accepted, with their times and sizes. -/
def acceptedIn (remoteIP : Nat → String) (past : History) (scope : Scope) : List (Time × Int) :=
  (past.filter fun o => scope.concerns remoteIP o.input ∧ o.output = some true).map
    fun o => (o.input.now, o.input.frameBytes)

section runs

variable {limits : InboundLimits} {remoteIP : Nat → String} {past : History}

theorem acceptedIn_snoc (past : History) (o : Occurrence Inbound Call (Option Bool))
    (scope : Scope) :
    acceptedIn remoteIP (past ++ [o]) scope =
      if scope.concerns remoteIP o.input ∧ o.output = some true then
        acceptedIn remoteIP past scope ++ [(o.input.now, o.input.frameBytes)]
      else acceptedIn remoteIP past scope := by
  unfold acceptedIn
  rw [filter_append, map_append]
  split_ifs with h
  · rw [filter_singleton, decide_eq_true h]
    rfl
  · rw [filter_singleton, decide_eq_false h]
    exact append_nil _

/-- The windows agree with the history, and the table of the addresses keeps its cap. -/
structure Agrees (limits : InboundLimits) (remoteIP : Nat → String) (past : History)
    (s : Inbound) (now : Time) : Prop where
  accounted : ∀ scope : Scope, Accounted limits.window (scope.maxFrames limits)
    (scope.maxBytes limits) (acceptedIn remoteIP past scope) (scope.window s) now
  size_le : s.limiter.ipWindows.keys.card ≤ limits.ipWindowCapacity

theorem Agrees.later {s : Inbound} {now now' : Time} (h : Agrees limits remoteIP past s now)
    (hnow : now ≤ now') : Agrees limits remoteIP past s now' :=
  ⟨fun scope => (h.accounted scope).later hnow, h.size_le⟩

theorem agrees_new (now : Time) : Agrees limits remoteIP [] new now := by
  refine ⟨fun scope => ?_, ?_⟩
  · cases scope with
    | server | connection => exact accounted_zero now
    | address ip =>
      simp only [Scope.window, new]
      rw [Finmap.lookup_empty]
      exact accounted_zero now
  · simp only [new]
    rw [Finmap.keys_empty, Finset.card_empty]
    exact Nat.zero_le _

theorem frame_size_le {s : Inbound} {connection : Nat} {frameBytes : Int} {now : Time}
    (h : s.limiter.ipWindows.keys.card ≤ limits.ipWindowCapacity) :
    (step limits remoteIP s (.frame connection frameBytes now)).1.limiter.ipWindows.keys.card ≤
      limits.ipWindowCapacity := by
  simp only [step, allowInbound, TrafficLimiter.allow]
  by_cases hneg : frameBytes < 0
  · simp only [if_pos hneg]
    exact h
  · simp only [if_neg hneg]
    cases hfull : s.limiter.full limits (remoteIP connection) with
    | true => exact h
    | false => exact Table.card_insert_le h hfull _

/-- The window of a scope after a sweep. -/
theorem sweep_window {s : Inbound} (order : RangeOrder String) (now : Time) (scope : Scope) :
    scope.window (step limits remoteIP s (.sweep order now)).1 = scope.window s ∨
      scope.window (step limits remoteIP s (.sweep order now)).1 = .zero ∧
        (scope.window s).over now limits.window = true := by
  simp only [step]
  cases scope with
  | server =>
    simp only [Scope.window, TrafficLimiter.sweep]
    by_cases h : s.limiter.global.startedAt ≠ 0 ∧
        s.limiter.global.over now limits.window = true
    · rw [if_pos h]
      exact .inr ⟨rfl, h.2⟩
    · rw [if_neg h]
      exact .inl rfl
  | address ip =>
    simp only [Scope.window, TrafficLimiter.sweep]
    have hentry := Table.swept_deleteWhere (p := fun w => w.over now limits.window)
      s.limiter.ipWindows order ip
    rcases hentry with hsame | ⟨hnone, w, hw, hover⟩
    · rw [hsame]
      exact .inl rfl
    · rw [hnone, hw]
      exact .inr ⟨rfl, hover⟩
  | connection => exact .inl rfl

theorem Agrees.step {s : Inbound} {call : Call} (hnow : call.now ≠ 0)
    (hbytes : 0 ≤ call.frameBytes) (h : Agrees limits remoteIP past s call.now) :
    Agrees limits remoteIP (past ++ [(machine limits remoteIP).occurrence s call])
      ((machine limits remoteIP).step s call).1 call.now := by
  cases call with
  | sweep order now =>
    refine ⟨fun scope => ?_, (Table.card_deleteWhere_le _ order _).trans h.size_le⟩
    have hnone : acceptedIn remoteIP
        (past ++ [(machine limits remoteIP).occurrence s (.sweep order now)]) scope =
        acceptedIn remoteIP past scope := by
      rw [acceptedIn_snoc, if_neg]
      rintro ⟨-, h⟩
      cases h
    rw [hnone]
    change Accounted _ _ _ _ (scope.window (Inbound.step limits remoteIP s _).1) _
    rcases sweep_window order now scope with hsame | ⟨hzero, hover⟩
    · rw [hsame]
      exact h.accounted scope
    · rw [hzero]
      exact (h.accounted scope).reset hover
  | frame connection frameBytes now =>
    refine ⟨fun scope => ?_, frame_size_le h.size_le⟩
    have hcharged := frame_charged limits remoteIP s connection frameBytes hbytes now scope
    have hcurrent := (h.accounted scope).current hnow
    have hsnoc : acceptedIn remoteIP (past ++ [_]) scope = _ := acceptedIn_snoc past
      ((machine limits remoteIP).occurrence s (.frame connection frameBytes now)) scope
    change Accounted _ _ _ _ (scope.window (Inbound.step limits remoteIP s _).1) _
    cases hcharges : scope.charges limits remoteIP s (.frame connection frameBytes now) with
    | true =>
      obtain ⟨hwindow, hwithin, -⟩ := hcharged.charged hcharges
      rw [hwindow]
      by_cases haccepted : scope.concerns remoteIP (.frame connection frameBytes now) = true ∧
          (Inbound.step limits remoteIP s (.frame connection frameBytes now)).2 = some true
      · rw [hsnoc.trans (if_pos haccepted)]
        exact hcurrent.accept (current_startedAt_ne hnow) (lt_current_end limits.window_pos)
          hbytes (hwithin haccepted.2)
      · rw [hsnoc.trans (if_neg haccepted)]
        exact hcurrent.refuse hbytes
    | false =>
      obtain ⟨hwindow, hrefused⟩ := hcharged.kept hcharges
      have hnot : ¬ (scope.concerns remoteIP (.frame connection frameBytes now) = true ∧
          (Inbound.step limits remoteIP s (.frame connection frameBytes now)).2 =
            some true) := by
        rintro ⟨hconcerns, haccepted⟩
        rw [hrefused hconcerns] at haccepted
        cases haccepted
      rw [hwindow, hsnoc.trans (if_neg hnot)]
      exact h.accounted scope

end runs

/-! ## Exhausted windows -/

section exhausted

variable {limits : InboundLimits} {remoteIP : Nat → String} {s : Inbound} {scope : Scope}
variable {start now : Time}

/-- A window that began at `start` has no bytes left, or is over. -/
def Exhausted (limits : InboundLimits) (scope : Scope) (start : Time) (s : Inbound) (now : Time) :
    Prop :=
  (scope.window s).startedAt = start ∧ (scope.window s).bytes = scope.maxBytes limits ∨
    start + limits.window ≤ now

theorem Exhausted.later (h : Exhausted limits scope start s now) {now' : Time}
    (hnow : now ≤ now') : Exhausted limits scope start s now' := by
  rcases h with h | h
  · exact .inl h
  · exact .inr (h.trans hnow)

/-- The window that is checked is the exhausted one, or that one is over. -/
theorem Exhausted.current (h : Exhausted limits scope start s now) (hstart : start ≠ 0) :
    (scope.current limits s now).startedAt = start ∧
      (scope.current limits s now).bytes = scope.maxBytes limits ∨ start + limits.window ≤ now := by
  rcases h with ⟨hbegun, hbytes⟩ | hover
  · by_cases hover : (scope.window s).over now limits.window = true
    · rw [traffic_over_iff, hbegun] at hover
      exact .inr hover
    · left
      rw [Scope.current, currentTrafficWindow, if_neg]
      · exact ⟨hbegun, hbytes⟩
      · rw [hbegun]
        exact not_or.mpr ⟨hstart, hover⟩
  · exact .inr hover

theorem Exhausted.step {call : Call} (h : Exhausted limits scope start s call.now)
    (hstart : start ≠ 0) (hbytes : 0 ≤ call.frameBytes) :
    Exhausted limits scope start ((machine limits remoteIP).step s call).1 call.now := by
  cases call with
  | sweep order now =>
    change Exhausted limits scope start (Inbound.step limits remoteIP s _).1 _
    rcases h with h | h
    · rcases sweep_window order now scope with hsame | ⟨-, hover⟩
      · left
        rw [hsame]
        exact h
      · right
        rw [traffic_over_iff, h.1] at hover
        exact hover
    · exact .inr h
  | frame connection frameBytes now =>
    have hcharged := frame_charged limits remoteIP s connection frameBytes hbytes now scope
    change Exhausted limits scope start (Inbound.step limits remoteIP s _).1 _
    cases hcharges : scope.charges limits remoteIP s (.frame connection frameBytes now) with
    | true =>
      rcases h.current hstart with ⟨hbegun, hmax⟩ | hover
      · left
        rw [(hcharged.charged hcharges).1]
        refine ⟨hbegun, ?_⟩
        simp only [Scope.consumed, consumeTraffic]
        rw [hmax, sub_self, if_pos hbytes]
      · exact .inr hover
    | false =>
      rcases h with h | h
      · left
        rw [(hcharged.kept hcharges).1]
        exact h
      · exact .inr h

theorem Exhausted.run {calls : List Call} (h : Exhausted limits scope start s now)
    (hstart : start ≠ 0) (hbytes : ∀ call ∈ calls, 0 ≤ call.frameBytes)
    (hordered : (calls.map Call.now).Pairwise (· ≤ ·)) (hnow : ∀ call ∈ calls, now ≤ call.now)
    {now' : Time} (hlast : ∀ call ∈ calls, call.now ≤ now') (hle : now ≤ now') :
    Exhausted limits scope start ((machine limits remoteIP).run s calls) now' := by
  induction calls generalizing s now with
  | nil => exact h.later hle
  | cons call calls ih =>
    obtain ⟨hrest, hordered⟩ := pairwise_cons.mp hordered
    have hcall := mem_cons_self (a := call) (l := calls)
    refine ih ((h.later (hnow call hcall)).step hstart (hbytes call hcall)) ?_ hordered ?_ ?_
      (hlast call hcall)
    · exact fun other hother => hbytes other (mem_cons_of_mem _ hother)
    · exact fun other hother => hrest _ (mem_map_of_mem hother)
    · exact fun other hother => hlast other (mem_cons_of_mem _ hother)

variable {call : Call}

/-- A frame with bytes that meets an exhausted window is refused. -/
theorem Exhausted.refused (h : Exhausted limits scope start s call.now)
    (hstart : start ≠ 0) (hconcerns : scope.concerns remoteIP call = true)
    (hsame : (scope.current limits s call.now).startedAt = start) (hbytes : 0 < call.frameBytes) :
    ((machine limits remoteIP).step s call).2 = some false := by
  cases call with
  | sweep => cases scope <;> cases hconcerns
  | frame connection frameBytes now =>
    have hcharged := frame_charged limits remoteIP s connection frameBytes hbytes.le now scope
    change (Inbound.step limits remoteIP s _).2 = some false
    cases hcharges : scope.charges limits remoteIP s (.frame connection frameBytes now) with
    | true =>
      apply (hcharged.charged hcharges).2.2
      rcases h.current hstart with ⟨-, hmax⟩ | hover
      · rw [Scope.within, trafficWithinLimit, hmax, sub_self, Bool.and_eq_false_iff]
        exact .inr (decide_eq_false (not_le.mpr hbytes))
      · have hlt : now < (scope.current limits s now).startedAt + limits.window :=
          lt_current_end limits.window_pos
        rw [show (scope.current limits s now).startedAt = start from hsame] at hlt
        exact absurd hover (not_le.mpr hlt)
    | false => exact (hcharged.kept hcharges).2 hconcerns

/-- A frame that is charged and refused for its bytes exhausts its window. -/
theorem exhausted_of_refused
    (hcharges : scope.charges limits remoteIP s call = true) (hbytes : 0 ≤ call.frameBytes)
    (hrefused : scope.maxBytes limits - (scope.current limits s call.now).bytes < call.frameBytes) :
    Exhausted limits scope (scope.current limits s call.now).startedAt
      ((machine limits remoteIP).step s call).1 call.now := by
  cases call with
  | sweep => cases scope <;> cases hcharges
  | frame connection frameBytes now =>
    have hcharged := frame_charged limits remoteIP s connection frameBytes hbytes now scope
    left
    change (scope.window (Inbound.step limits remoteIP s _).1).startedAt = _ ∧
      (scope.window (Inbound.step limits remoteIP s _).1).bytes = _
    rw [(hcharged.charged hcharges).1]
    refine ⟨rfl, ?_⟩
    simp only [Scope.consumed, consumeTraffic]
    exact if_pos hrefused.le

end exhausted

/-! ## Sweeps -/

section sweeps

variable {limits : InboundLimits} {remoteIP : Nat → String} {s s' : Inbound} {now : Time}

/-- The limits before and after windows were taken out that are over by a time. -/
structure Swept (limits : InboundLimits) (now : Time) (s s' : Inbound) : Prop where
  global : s'.limiter.global = s.limiter.global ∨
    s'.limiter.global = .zero ∧ s.limiter.global.over now limits.window = true
  ipWindows : Table.Swept (fun w => w.over now limits.window) s.limiter.ipWindows
    s'.limiter.ipWindows
  inbound : s'.inbound = s.inbound

theorem traffic_over_later {w : TrafficWindow} (h : w.over now limits.window = true) {now' : Time}
    (hnow : now ≤ now') : w.over now' limits.window = true :=
  traffic_over_iff.mpr ((traffic_over_iff.mp h).trans hnow)

theorem Swept.later (h : Swept limits now s s') {now' : Time} (hnow : now ≤ now') :
    Swept limits now' s s' := by
  refine ⟨?_, fun ip => (h.ipWindows ip).mono fun _ hover => traffic_over_later hover hnow,
    h.inbound⟩
  rcases h.global with hsame | ⟨hzero, hover⟩
  · exact .inl hsame
  · exact .inr ⟨hzero, traffic_over_later hover hnow⟩

theorem swept_sweep (order : RangeOrder String) :
    Swept limits now s ((machine limits remoteIP).step s (.sweep order now)).1 := by
  refine ⟨?_, Table.swept_deleteWhere _ order, rfl⟩
  change Scope.window (Inbound.step limits remoteIP s _).1 .server = Scope.window s .server ∨
    Scope.window (Inbound.step limits remoteIP s _).1 .server = .zero ∧
      (Scope.window s .server).over now limits.window = true
  exact sweep_window order now .server

/-- A window that is over counts like one that has not begun. -/
theorem currentTrafficWindow_swept {w w' : TrafficWindow} {duration : Int}
    (h : w' = w ∨ w' = .zero ∧ w.over now duration = true) :
    currentTrafficWindow w' now duration = currentTrafficWindow w now duration := by
  rcases h with rfl | ⟨rfl, hover⟩
  · rfl
  · rw [currentTrafficWindow, currentTrafficWindow, if_pos (.inl rfl), if_pos (.inr hover)]

theorem Swept.entry (h : Swept limits now s s') (ip : String) :
    currentTrafficWindow ((s'.limiter.ipWindows.lookup ip).getD .zero) now limits.window =
      currentTrafficWindow ((s.limiter.ipWindows.lookup ip).getD .zero) now limits.window := by
  apply currentTrafficWindow_swept
  rcases h.ipWindows ip with hsame | ⟨hnone, w, hw, hover⟩
  · exact .inl (congrArg (Option.getD · _) hsame)
  · right
    rw [hnone, hw]
    exact ⟨rfl, hover⟩

/-- The frame comes from an address that there is no room for. -/
def atCapacity (limits : InboundLimits) (remoteIP : Nat → String) (s : Inbound) : Call → Bool
  | .frame connection _ _ => s.limiter.full limits (remoteIP connection)
  | .sweep .. => false

/-- A frame finds room in one table of addresses that it does not find in the other. -/
def Freed (limits : InboundLimits) (remoteIP : Nat → String) (s s' : Inbound) (call : Call) :
    Prop :=
  atCapacity limits remoteIP s call = true ∧ atCapacity limits remoteIP s' call = false

theorem Swept.step {call : Call} (h : Swept limits call.now s s')
    (hsame : atCapacity limits remoteIP s' call = atCapacity limits remoteIP s call) :
    ((machine limits remoteIP).step s' call).2 = ((machine limits remoteIP).step s call).2 ∧
      Swept limits call.now ((machine limits remoteIP).step s call).1
        ((machine limits remoteIP).step s' call).1 := by
  cases call with
  | sweep order now =>
    refine ⟨rfl, ?_, h.ipWindows.deleteWhere order, h.inbound⟩
    change (s'.limiter.sweep limits order now).global = (s.limiter.sweep limits order now).global
      ∨ (s'.limiter.sweep limits order now).global = .zero ∧
        (s.limiter.sweep limits order now).global.over now limits.window = true
    simp only [TrafficLimiter.sweep]
    rcases h.global with hsame | ⟨hzero, hover⟩
    · rw [hsame]
      exact .inl rfl
    · rw [hzero, if_neg (fun h => h.1 rfl)]
      by_cases hbegun : s.limiter.global.startedAt ≠ 0 ∧
          s.limiter.global.over now limits.window = true
      · rw [if_pos hbegun]
        exact .inl rfl
      · rw [if_neg hbegun]
        exact .inr ⟨rfl, hover⟩
  | frame connection frameBytes now =>
    have hglobal := currentTrafficWindow_swept h.global
    have hentry := h.entry (remoteIP connection)
    change s'.limiter.full limits (remoteIP connection) =
      s.limiter.full limits (remoteIP connection) at hsame
    change (Inbound.step limits remoteIP s' _).2 = (Inbound.step limits remoteIP s _).2 ∧
      Swept limits now (Inbound.step limits remoteIP s _).1 (Inbound.step limits remoteIP s' _).1
    simp only [Call.now] at hglobal hentry
    simp only [Inbound.step, allowInbound, TrafficLimiter.allow, hglobal, hentry, hsame, h.inbound]
    split_ifs
    · exact ⟨rfl, h.global, h.ipWindows, rfl⟩
    · exact ⟨rfl, .inl rfl, h.ipWindows, rfl⟩
    · exact ⟨rfl, .inl rfl, h.ipWindows.insert _ _, rfl⟩

theorem Swept.atCapacity {call : Call} (h : Swept limits now s s')
    (hsize : s.limiter.ipWindows.keys.card ≤ limits.ipWindowCapacity)
    (hcapacity : atCapacity limits remoteIP s' call = true) :
    atCapacity limits remoteIP s call = true := by
  cases call with
  | sweep => cases hcapacity
  | frame connection frameBytes now => exact h.ipWindows.full hsize hcapacity

/-- Unless a frame finds room in the swept table only, both tables have room for it or none has. -/
theorem Swept.atCapacity_eq {past : History} {call : Call}
    (hagrees : Agrees limits remoteIP past s now) (h : Swept limits now s s')
    (hnot : ¬ Freed limits remoteIP s s' call) :
    Inbound.atCapacity limits remoteIP s' call = Inbound.atCapacity limits remoteIP s call := by
  cases hcapacity : Inbound.atCapacity limits remoteIP s' call with
  | true => exact (h.atCapacity hagrees.size_le hcapacity).symm
  | false =>
    cases hcapacity' : Inbound.atCapacity limits remoteIP s call with
    | true => exact absurd ⟨hcapacity', hcapacity⟩ hnot
    | false => rfl

/-- Limits one of which was swept agree on every verdict until a frame finds room in the swept
table only. -/
theorem Swept.run {past : History} {calls : List Call}
    (hagrees : Agrees limits remoteIP past s now) (h : Swept limits now s s')
    (hnonzero : ∀ call ∈ calls, call.now ≠ 0) (hbytes : ∀ call ∈ calls, 0 ≤ call.frameBytes)
    (hordered : (calls.map Call.now).Pairwise (· ≤ ·)) (hnow : ∀ call ∈ calls, now ≤ call.now)
    {first rest : List Call} {call : Call} (hsplit : calls = first ++ call :: rest)
    (hfreed : ∀ pre other post, first ++ [call] = pre ++ other :: post →
      ¬ Freed limits remoteIP ((machine limits remoteIP).run s pre)
        ((machine limits remoteIP).run s' pre) other) :
    ((machine limits remoteIP).step ((machine limits remoteIP).run s' first) call).2 =
      ((machine limits remoteIP).step ((machine limits remoteIP).run s first) call).2 := by
  subst hsplit
  apply ordered_lockstep Call.now (fun call => call.now ≠ 0 ∧ 0 ≤ call.frameBytes)
    (fun s s' now => (∃ past, Agrees limits remoteIP past s now) ∧ Swept limits now s s')
    (Freed limits remoteIP)
  · rintro s s' now now' hle ⟨⟨past, hagrees⟩, h⟩
    exact ⟨⟨past, hagrees.later hle⟩, h.later hle⟩
  · rintro s s' call hcall ⟨⟨past, hagrees⟩, h⟩ hnot
    obtain ⟨houtput, hnext⟩ := h.step (h.atCapacity_eq hagrees hnot)
    exact ⟨houtput, ⟨_, hagrees.step hcall.1 hcall.2⟩, hnext⟩
  · exact ⟨⟨past, hagrees⟩, h⟩
  · exact fun call hcall => ⟨hnonzero call hcall, hbytes call hcall⟩
  · exact hordered
  · exact hnow
  · exact hfreed

end sweeps

/-! ## Every run -/

/-- What the limits promise about a run. -/
structure TrafficLimited (limits : InboundLimits) (remoteIP : Nat → String) (calls : List Call) :
    Prop where
  /-- The frames accepted by the server, from an address or on a connection fall into disjoint
  windows, and keep the scope's limits in each. -/
  bounded : ∀ scope : Scope, FallIntoWindows Prod.fst limits.window
    (FitsWindow (scope.maxFrames limits) (scope.maxBytes limits))
    (acceptedIn remoteIP ((machine limits remoteIP).trace new calls) scope)
  /-- The counters stay between zero and their limits. -/
  counters : ∀ o ∈ (machine limits remoteIP).trace new calls, ∀ scope : Scope,
    (scope.window o.after).frames ≤ scope.maxFrames limits ∧ 0 ≤ (scope.window o.after).bytes ∧
      (scope.window o.after).bytes ≤ scope.maxBytes limits
  /-- Once a frame was refused for its bytes, its window refuses every frame that has bytes. -/
  exhausted : ∀ (scope : Scope) before call between later rest,
    calls = before ++ call :: between ++ later :: rest →
    let s := (machine limits remoteIP).run new before
    let s' := (machine limits remoteIP).run new (before ++ call :: between)
    scope.charges limits remoteIP s call = true →
    scope.maxBytes limits - (scope.current limits s call.now).bytes < call.frameBytes →
    scope.concerns remoteIP later = true →
    (scope.current limits s' later.now).startedAt =
      (scope.current limits s call.now).startedAt →
    0 < later.frameBytes →
    ((machine limits remoteIP).step s' later).2 = some false
  /-- A sweep changes no later verdict, until a frame finds room that it would not have found. -/
  swept : ∀ before order now first call rest,
    calls = before ++ .sweep order now :: (first ++ call :: rest) →
    ((machine limits remoteIP).step ((machine limits remoteIP).run new
        (before ++ .sweep order now :: first)) call).2 =
        ((machine limits remoteIP).step ((machine limits remoteIP).run new
          (before ++ first)) call).2 ∨
      ∃ pre other post, first ++ [call] = pre ++ other :: post ∧
        Freed limits remoteIP ((machine limits remoteIP).run new (before ++ pre))
          ((machine limits remoteIP).run new (before ++ .sweep order now :: pre)) other

section limited

variable {calls : List Call}

/-- The windows agree with the history after every run. -/
theorem run_agrees (limits : InboundLimits) (remoteIP : Nat → String)
    (hnonzero : ∀ call ∈ calls, call.now ≠ 0)
    (hbytes : ∀ call ∈ calls, 0 ≤ call.frameBytes)
    (hordered : (calls.map Call.now).Pairwise (· ≤ ·)) {now : Time}
    (hnow : ∀ call ∈ calls, call.now ≤ now) :
    Agrees limits remoteIP ((machine limits remoteIP).trace new calls)
      ((machine limits remoteIP).run new calls) now := by
  apply ordered_invariant Call.now (fun call => call.now ≠ 0 ∧ 0 ≤ call.frameBytes)
    (Agrees limits remoteIP)
  · intro past s t t' hle h
    exact h.later hle
  · intro past s call hcall h
    exact h.step hcall.1 hcall.2
  · exact agrees_new
  · exact fun call hcall => ⟨hnonzero call hcall, hbytes call hcall⟩
  · exact hordered
  · exact hnow

theorem agrees_at (limits : InboundLimits) (remoteIP : Nat → String)
    (hnonzero : ∀ call ∈ calls, call.now ≠ 0)
    (hbytes : ∀ call ∈ calls, 0 ≤ call.frameBytes)
    (hordered : (calls.map Call.now).Pairwise (· ≤ ·)) {before rest : List Call} {call : Call}
    (hsplit : calls = before ++ call :: rest) :
    Agrees limits remoteIP ((machine limits remoteIP).trace new before)
      ((machine limits remoteIP).run new before) call.now := by
  subst hsplit
  rw [map_append, pairwise_append] at hordered
  apply run_agrees limits remoteIP (fun other hother => hnonzero other (mem_append_left _ hother))
    (fun other hother => hbytes other (mem_append_left _ hother)) hordered.1
  intro other hother
  exact hordered.2.2 _ (mem_map_of_mem hother) _ (mem_cons_self ..)

/-- Over every sequence of frames and sweeps at nondecreasing nonzero times. -/
theorem traffic_limited (limits : InboundLimits) (remoteIP : Nat → String) (calls : List Call)
    (hnonzero : ∀ call ∈ calls, call.now ≠ 0) (hbytes : ∀ call ∈ calls, 0 ≤ call.frameBytes)
    (hordered : (calls.map Call.now).Pairwise (· ≤ ·)) :
    TrafficLimited limits remoteIP calls := by
  obtain ⟨now, hnow⟩ : ∃ now, ∀ call ∈ calls, call.now ≤ now := by
    obtain ⟨now, hnow⟩ := (calls.map Call.now).toFinset.exists_le
    exact ⟨now, fun call hcall => hnow _ (mem_toFinset.mpr (mem_map_of_mem hcall))⟩
  have hagrees := run_agrees limits remoteIP hnonzero hbytes hordered hnow
  refine ⟨fun scope => (hagrees.accounted scope).filling.fallIntoWindows, ?_, ?_, ?_⟩
  · intro o ho scope
    obtain ⟨past, later, hsplit⟩ := append_of_mem ho
    obtain ⟨before, call, rest, hcalls, -, rfl, -⟩ := trace_split hsplit
    have hmem : call ∈ calls := by
      rw [hcalls]
      simp
    have hat := agrees_at limits remoteIP hnonzero hbytes hordered hcalls
    have h := (hat.step (hnonzero call hmem) (hbytes call hmem)).accounted scope
    exact ⟨h.frames_le, h.bytes_nonneg, h.bytes_le⟩
  · intro scope before call between later rest hsplit s s' hcharges hrefused hconcerns hsame hlater
    have hcall : call ∈ calls := by
      rw [hsplit]
      simp
    have hbetween : ∀ other ∈ between, other ∈ calls := by
      intro other hother
      rw [hsplit]
      exact mem_append_left _ (mem_append_right _ (mem_cons_of_mem _ hother))
    rw [hsplit, append_assoc, cons_append, map_append, pairwise_append,
      map_cons, pairwise_cons, map_append, pairwise_append] at hordered
    obtain ⟨-, ⟨hfirst, hordered, -, hlast⟩, -⟩ := hordered
    have hmem : ∀ other ∈ between,
      other.now ∈ between.map Call.now ++ (later :: rest).map Call.now :=
      fun other hother => mem_append_left _ (mem_map_of_mem hother)
    have hstart : (scope.current limits s call.now).startedAt ≠ 0 :=
      current_startedAt_ne (hnonzero call hcall)
    have hexhausted := exhausted_of_refused hcharges (hbytes call hcall) hrefused
    have hrun : s' = (machine limits remoteIP).run
        ((machine limits remoteIP).step s call).1 between := by
      change (machine limits remoteIP).run new (before ++ call :: between) = _
      rw [run_append, run_cons]
    have hend : Exhausted limits scope _ ((machine limits remoteIP).run _ between) later.now :=
      hexhausted.run hstart (fun other hother => hbytes other (hbetween other hother)) hordered
        (fun other hother => hfirst _ (hmem other hother))
        (fun other hother => hlast _ (mem_map_of_mem hother) _ (mem_cons_self ..))
        (hfirst later.now (mem_append_right _ (mem_cons_self ..)))
    rw [← hrun] at hend
    exact hend.refused hstart hconcerns hsame hlater
  · intro before order now first call rest hsplit
    by_cases hfreed : ∃ pre other post, first ++ [call] = pre ++ other :: post ∧
        Freed limits remoteIP ((machine limits remoteIP).run new (before ++ pre))
          ((machine limits remoteIP).run new (before ++ .sweep order now :: pre)) other
    · exact .inr hfreed
    · left
      have hagrees := agrees_at limits remoteIP hnonzero hbytes hordered hsplit
      rw [hsplit, map_append, pairwise_append, map_cons, pairwise_cons] at hordered
      have hmem : ∀ other ∈ first ++ call :: rest, other ∈ calls := by
        intro other hother
        rw [hsplit]
        exact mem_append_right _ (mem_cons_of_mem _ hother)
      rw [run_append, run_append, run_cons]
      refine Swept.run hagrees (swept_sweep order) (fun other hother => hnonzero other
        (hmem other hother)) (fun other hother => hbytes other (hmem other hother))
        hordered.2.1.2 ?_ rfl ?_
      · intro other hother
        exact hordered.2.1.1 _ (mem_map_of_mem hother)
      · intro pre other post heq hfreed'
        refine hfreed ⟨pre, other, post, heq, ?_⟩
        rw [run_append, run_append, run_cons]
        exact hfreed'

/-- Limits that are soon reached. -/
def sampleLimits : InboundLimits where
  window := 10
  framesPerConnection := 3
  bytesPerConnection := 30
  framesPerIP := 4
  bytesPerIP := 40
  framesGlobal := 8
  bytesGlobal := 50
  ipWindowCapacity := 1
  window_pos := by decide
  framesPerIP_pos := by decide
  bytesPerIP_pos := by decide
  framesGlobal_pos := by decide
  bytesGlobal_pos := by decide
  ipWindowCapacity_pos := Nat.one_pos

/-- The second frame is too large for what is left of the connection's window, and exhausts it;
the address of the last frame finds no room. -/
theorem traffic_limited_sample :
    let calls : List Call := [.frame 0 20 100, .frame 0 20 101, .frame 0 1 102, .frame 1 1 103]
    let remoteIP : Nat → String := fun n => if n = 0 then "a" else "b"
    TrafficLimited sampleLimits remoteIP calls ∧
      ((machine sampleLimits remoteIP).trace new calls).map (·.output) =
        [some true, some false, some false, some false] :=
  ⟨traffic_limited sampleLimits _ _ (by decide) (by decide) (by decide), by decide +kernel⟩

end limited

end Inbound

end Server

end Roammand
