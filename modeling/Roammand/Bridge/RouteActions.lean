import Roammand.Bridge.RouteAgreement

/-!
# Privileged bridge: what a change of the route asks for

The observed route moves through generations.  An observation is refused and changes nothing,
repeats what is known and asks for nothing, or moves the route to a newer generation; a move
takes control away first and touches the route after that.

Main results:

- Definition `SessionStateMachine.applyChecked`: the same operation with the addition that could
  leave the range of its type made visible.
- Definition `SessionStateMachine.Applied` with theorem `apply_applied`: everything that an
  observation can do.
- Theorem `SessionStateMachine.route_actions`: over every run, what is refused, how generations
  move, when input is enabled and in which order the actions come.
- Theorem `SessionStateMachine.duplicate_keeps_control`: a repeated observation asks for nothing,
  although control is active.
-/

namespace Roammand

namespace Bridge

open Library

/-- The route that an observation brings. -/
def RouteEvent.route : RouteEvent → Option RouteSession
  | .sessionAvailable next => some next
  | _ => none

namespace SessionStateMachine

/-! ## The addition of the source -/

/-- Whether a generation leaves a gap; `none` when the addition of the source leaves its range. -/
def leavesGapChecked (m : SessionStateMachine) (generation : Nat) : Option Bool :=
  if m.generation = 0 then some false
  else (checkedAdd m.generation 1).map fun next => decide (generation ≠ next)

/-- `apply_available` with its addition checked. -/
def applyAvailableChecked (m : SessionStateMachine) (next : RouteSession) :
    Option (SessionStateMachine × Except SessionError (List SessionAction)) :=
  if next.osSessionId = 0 then some (m, .error .unexpectedOsSession)
  else if next.generation < m.generation then some (m, .error .staleGeneration)
  else if next.generation = m.generation then
    if m.current = some next then some (m, .ok []) else some (m, .error .conflictingDuplicate)
  else (m.leavesGapChecked next.generation).map fun gap =>
    if gap then (m, .error .generationGap)
    else if m.current.any (fun current => next.osSessionId ≠ current.osSessionId) then
      (m, .error .unexpectedOsSession)
    else
      let r := m.freezeActions false
      ({ r.1 with generation := next.generation, current := some next },
        .ok (r.2 ++ [.publishRoute next]))

/-- `apply_unavailable` with its addition checked. -/
def applyUnavailableChecked (m : SessionStateMachine) (generation : Nat) :
    Option (SessionStateMachine × Except SessionError (List SessionAction)) :=
  if generation < m.generation then some (m, .error .staleGeneration)
  else if generation = m.generation then
    if m.current.isNone then some (m, .ok []) else some (m, .error .conflictingDuplicate)
  else (m.leavesGapChecked generation).map fun gap =>
    if gap then (m, .error .generationGap)
    else
      let r := m.freezeActions true
      ({ r.1 with generation, current := none }, .ok r.2)

/-- `apply` with its additions checked: `none` where the source would overflow. -/
def applyChecked (m : SessionStateMachine) :
    RouteEvent → Option (SessionStateMachine × Except SessionError (List SessionAction))
  | .sessionAvailable next => m.applyAvailableChecked next
  | .routeLost generation | .helperCrashed generation | .brokerRestarted generation
  | .hostDisconnected generation | .loggedOut generation => m.applyUnavailableChecked generation

/-- A generation above the present one leaves room for the addition. -/
theorem leavesGapChecked_eq {m : SessionStateMachine} {generation : Nat}
    (hnewer : m.generation < generation) (hrange : generation ≤ u64Max) :
    m.leavesGapChecked generation =
      some (decide (m.generation ≠ 0 ∧ generation ≠ m.generation + 1)) := by
  unfold leavesGapChecked
  by_cases hzero : m.generation = 0
  · rw [if_pos hzero]
    simp [hzero]
  · have hadd : checkedAdd m.generation 1 = some (m.generation + 1) :=
      checkedAdd_eq_some.mpr ⟨by omega, rfl⟩
    rw [if_neg hzero, hadd]
    simp [hzero]

/-- No observation with a generation of its type makes the addition overflow. -/
theorem applyChecked_eq {m : SessionStateMachine} {event : RouteEvent}
    (hrange : event.generation ≤ u64Max) : m.applyChecked event = some (m.apply event) := by
  have hunavailable : ∀ generation ≤ u64Max,
      m.applyUnavailableChecked generation = some (m.applyUnavailable generation) := by
    intro generation hgeneration
    unfold applyUnavailableChecked applyUnavailable
    by_cases hstale : generation < m.generation
    · rw [if_pos hstale, if_pos hstale]
    by_cases hsame : generation = m.generation
    · rw [if_neg hstale, if_neg hstale, if_pos hsame, if_pos hsame]
      split <;> rfl
    rw [if_neg hstale, if_neg hstale, if_neg hsame, if_neg hsame,
      leavesGapChecked_eq (by omega) hgeneration]
    by_cases hgap : m.generation ≠ 0 ∧ generation ≠ m.generation + 1
    · simp [hgap]
    · simp [hgap]
  cases event with
  | sessionAvailable next =>
    change m.applyAvailableChecked next = some (m.applyAvailable next)
    change next.generation ≤ u64Max at hrange
    unfold applyAvailableChecked applyAvailable
    by_cases hsession : next.osSessionId = 0
    · rw [if_pos hsession, if_pos hsession]
    by_cases hstale : next.generation < m.generation
    · rw [if_neg hsession, if_neg hsession, if_pos hstale, if_pos hstale]
    by_cases hsame : next.generation = m.generation
    · rw [if_neg hsession, if_neg hsession, if_neg hstale, if_neg hstale, if_pos hsame,
        if_pos hsame]
      split <;> rfl
    rw [if_neg hsession, if_neg hsession, if_neg hstale, if_neg hstale, if_neg hsame,
      if_neg hsame, leavesGapChecked_eq (by omega) hrange]
    by_cases hgap : m.generation ≠ 0 ∧ next.generation ≠ m.generation + 1
    · simp [hgap]
    · simp only [hgap, decide_false, Option.map_some, Bool.false_eq_true, if_false]
  | routeLost generation | helperCrashed generation | brokerRestarted generation
  | hostDisconnected generation | loggedOut generation => exact hunavailable generation hrange

/-! ## Everything an observation can do -/

/-- What undoes the controller's work. -/
def undoActions (m : SessionStateMachine) : List SessionAction :=
  if m.controlledLease ∨ m.inputEnabled then [.freezeInput, .releaseAllInput, .peerDisconnected]
  else []

/-- What happens to the route after that. -/
def routeActions (m : SessionStateMachine) : RouteEvent → List SessionAction
  | .sessionAvailable next => [.publishRoute next]
  | .routeLost _ | .helperCrashed _ | .brokerRestarted _ | .hostDisconnected _ | .loggedOut _ =>
    if m.current.isSome then [.clearRoute] else []

/-- The route after an observation, and what it answers. -/
inductive Applied (m : SessionStateMachine) (event : RouteEvent) :
    SessionStateMachine × Except SessionError (List SessionAction) → Prop
  | refused (error : SessionError) : Applied m event (m, .error error)
  | duplicate (hsame : event.generation = m.generation) : Applied m event (m, .ok [])
  | moved (hnewer : m.generation < event.generation)
      (hnext : m.generation = 0 ∨ event.generation = m.generation + 1) :
      Applied m event
        ({ generation := event.generation, current := event.route
           controlledLease := false, inputEnabled := false },
          .ok (m.undoActions ++ m.routeActions event))

theorem applyUnavailable_applied {m : SessionStateMachine} {event : RouteEvent}
    (hloss : m.apply event = m.applyUnavailable event.generation)
    (hroute : event.route = none)
    (hactions : m.routeActions event = if m.current.isSome then [.clearRoute] else []) :
    Applied m event (m.apply event) := by
  rw [hloss]
  unfold applyUnavailable
  by_cases hstale : event.generation < m.generation
  · rw [if_pos hstale]
    exact .refused _
  rw [if_neg hstale]
  by_cases hsame : event.generation = m.generation
  · rw [if_pos hsame]
    split_ifs
    · exact .duplicate hsame
    · exact .refused _
  rw [if_neg hsame]
  by_cases hgap : m.generation ≠ 0 ∧ event.generation ≠ m.generation + 1
  · rw [if_pos hgap]
    exact .refused _
  · rw [if_neg hgap]
    have hnewer : m.generation < event.generation := by omega
    have hnext : m.generation = 0 ∨ event.generation = m.generation + 1 := by omega
    have happlied := Applied.moved hnewer hnext
    rw [hroute, hactions] at happlied
    simpa [freezeActions, undoActions] using happlied

/-- An observation is refused, repeats what is known, or moves the route. -/
theorem apply_applied (m : SessionStateMachine) (event : RouteEvent) :
    Applied m event (m.apply event) := by
  cases event with
  | sessionAvailable next =>
    change Applied m _ (m.applyAvailable next)
    unfold applyAvailable
    by_cases hsession : next.osSessionId = 0
    · rw [if_pos hsession]
      exact .refused _
    rw [if_neg hsession]
    by_cases hstale : next.generation < m.generation
    · rw [if_pos hstale]
      exact .refused _
    rw [if_neg hstale]
    by_cases hsame : next.generation = m.generation
    · rw [if_pos hsame]
      split_ifs
      · exact .duplicate hsame
      · exact .refused _
    rw [if_neg hsame]
    by_cases hgap : m.generation ≠ 0 ∧ next.generation ≠ m.generation + 1
    · rw [if_pos hgap]
      exact .refused _
    rw [if_neg hgap]
    split_ifs
    · exact .refused _
    · have hnewer : m.generation < (RouteEvent.sessionAvailable next).generation := by
        change m.generation < next.generation
        omega
      have hnext : m.generation = 0 ∨
          (RouteEvent.sessionAvailable next).generation = m.generation + 1 := by
        change m.generation = 0 ∨ next.generation = m.generation + 1
        omega
      have happlied := Applied.moved hnewer hnext
      simpa [freezeActions, undoActions, routeActions, RouteEvent.route, RouteEvent.generation]
        using happlied
  | routeLost generation | helperCrashed generation | brokerRestarted generation
  | hostDisconnected generation | loggedOut generation =>
    exact applyUnavailable_applied rfl rfl rfl

/-! ## Runs -/

/-- A call on the state machine. -/
inductive Call where
  | apply (event : RouteEvent)
  | beginControl (generation : Nat)

/-- The generation a call is given. -/
def Call.generation : Call → Nat
  | .apply event => event.generation
  | .beginControl generation => generation

/-- What a call answers. -/
inductive Reply where
  | applied (result : Except SessionError (List SessionAction))
  | begun (result : Except SessionError Unit)

/-- The call has been refused. -/
def Reply.refused : Reply → Bool
  | .applied (.error _) | .begun (.error _) => true
  | _ => false

/-- The actions the call has returned. -/
def Reply.actions : Reply → Option (List SessionAction)
  | .applied (.ok actions) => some actions
  | _ => none

/-- The state machine under any calls. -/
def machine : Machine SessionStateMachine Call Reply where
  step m call := match call with
    | .apply event => ((m.apply event).1, .applied (m.apply event).2)
    | .beginControl generation =>
      ((m.beginControl generation).1, .begun (m.beginControl generation).2)

/-- One call in a run. -/
abbrev CallEvent := Occurrence SessionStateMachine Call Reply

/-- The call has been accepted and is no repetition. -/
def Advances (e : CallEvent) : Prop :=
  ∃ event actions, e.input = .apply event ∧ e.output.actions = some actions ∧
    event.generation ≠ e.before.generation

/-- Input is enabled only under a controlled lease on the route of the present generation. -/
structure InputSound (m : SessionStateMachine) : Prop where
  route : ∀ route ∈ m.current, route.generation = m.generation
  lease : m.inputEnabled = true → m.controlledLease = true
  current : m.controlledLease = true → m.current ≠ none

theorem inputSound_new : InputSound new :=
  ⟨nofun, nofun, nofun⟩

/-- A call keeps what input depends on. -/
theorem InputSound.step {m : SessionStateMachine} (h : InputSound m) (call : Call) :
    InputSound (machine.step m call).1 := by
  cases call with
  | apply event =>
    change InputSound (m.apply event).1
    have happlied := apply_applied m event
    generalize m.apply event = r at happlied
    cases happlied with
    | refused => exact h
    | duplicate => exact h
    | moved =>
      refine ⟨fun route hroute => ?_, nofun, nofun⟩
      cases event <;> cases hroute
      rfl
  | beginControl generation =>
    change InputSound (m.beginControl generation).1
    rw [beginControl_eq]
    by_cases hserves : m.Serves generation
    · rw [if_pos hserves]
      refine ⟨h.route, fun _ => rfl, fun _ hnone => ?_⟩
      have hany := hserves.2
      rw [show m.current = none from hnone] at hany
      cases hany
    · rw [if_neg hserves]
      exact h

variable (calls : List Call)

theorem run_inputSound : InputSound (machine.run new calls) :=
  machine.run_invariant InputSound (G := fun _ _ => True) (fun _ call h _ => h.step call)
    inputSound_new (Machine.guarded_true _ calls)

/-- A refused call changes nothing. -/
theorem refused_unchanged (m : SessionStateMachine) (call : Call)
    (hrefused : (machine.step m call).2.refused = true) : (machine.step m call).1 = m := by
  cases call with
  | apply event =>
    change (m.apply event).1 = m
    change Reply.refused (.applied (m.apply event).2) = true at hrefused
    have happlied := apply_applied m event
    generalize m.apply event = r at happlied hrefused
    cases happlied with
    | refused => rfl
    | duplicate => rfl
    | moved => cases hrefused
  | beginControl generation =>
    change (m.beginControl generation).1 = m
    change Reply.refused (.begun (m.beginControl generation).2) = true at hrefused
    rw [beginControl_eq] at hrefused ⊢
    by_cases hserves : m.Serves generation
    · rw [if_pos hserves] at hrefused
      cases hrefused
    · rw [if_neg hserves]

/-- The generation leaves zero with the first advance and never comes back. -/
theorem generation_eq_zero_iff :
    (machine.run new calls).generation = 0 ↔ ∀ e ∈ machine.trace new calls, ¬ Advances e := by
  have hhistory := Machine.history_invariant (M := machine) (G := fun _ _ => True)
    (fun past m => m.generation = 0 ↔ ∀ e ∈ past, ¬ Advances e)
    (fun past m call ih _ => ?_) [] (by simp [new]) (Machine.guarded_true new calls)
  · exact hhistory
  · have hstep : (machine.step m call).1.generation = 0 ↔
        m.generation = 0 ∧ ¬ Advances (machine.occurrence m call) := by
      cases call with
      | beginControl generation =>
        have hsame : (m.beginControl generation).1.generation = m.generation := by
          rw [beginControl_eq]
          split_ifs <;> rfl
        change (m.beginControl generation).1.generation = 0 ↔ _
        rw [hsame]
        exact ⟨fun hzero => ⟨hzero, fun ⟨_, _, hinput, _⟩ => nomatch hinput⟩, And.left⟩
      | apply event =>
        have hadvances : Advances (machine.occurrence m (.apply event)) ↔
            ∃ actions, (m.apply event).2 = .ok actions ∧ event.generation ≠ m.generation := by
          constructor
          · rintro ⟨_, actions, hinput, hactions, hne⟩
            cases hinput
            change Reply.actions (.applied (m.apply event).2) = _ at hactions
            cases hresult : (m.apply event).2 with
            | error _ => rw [hresult] at hactions; cases hactions
            | ok more => exact ⟨more, rfl, hne⟩
          · rintro ⟨actions, hresult, hne⟩
            refine ⟨event, actions, rfl, ?_, hne⟩
            change Reply.actions (.applied (m.apply event).2) = _
            rw [hresult]
            rfl
        rw [hadvances]
        change (m.apply event).1.generation = 0 ↔ _
        have happlied := apply_applied m event
        generalize m.apply event = r at happlied
        cases happlied with
        | refused => simp
        | duplicate hsame => simp [hsame]
        | moved hnewer =>
          simp only [Except.ok.injEq, exists_eq_left', not_not]
          omega
    rw [hstep, ih]
    simp only [List.mem_append, List.mem_singleton, or_imp, forall_and, forall_eq]

/-- Over every run with generations of their type: no addition overflows, a refused call changes
nothing, the first accepted observation that is no repetition sets the generation and each
later one raises it by one, input is enabled only under a controlled lease on the route of the
present generation, and the actions take control away, exactly when it was active, before they
touch the route; a repeated observation asks for nothing. -/
theorem route_actions (hrange : ∀ call ∈ calls, call.generation ≤ u64Max) :
    (∀ past e rest, machine.trace new calls = past ++ e :: rest →
      (e.output.refused = true → e.after = e.before) ∧
      (∀ event, e.input = .apply event → e.before.applyChecked event =
        some (e.before.apply event)) ∧
      (Advances e →
        ((∀ x ∈ past, ¬ Advances x) → e.after.generation = e.input.generation) ∧
        ((∃ x ∈ past, Advances x) → e.after.generation = e.before.generation + 1)) ∧
      ∀ event actions, e.input = .apply event → e.output.actions = some actions →
        (Advances e ∧ actions =
            (if e.before.controlledLease then
              [.freezeInput, .releaseAllInput, .peerDisconnected] else []) ++
            e.before.routeActions event) ∨
          (event.generation = e.before.generation ∧ e.after = e.before ∧ actions = [])) ∧
    ((machine.run new calls).inputEnabled = true →
      (machine.run new calls).controlledLease = true ∧
        ∃ route, (machine.run new calls).current = some route ∧
          route.generation = (machine.run new calls).generation) := by
  refine ⟨fun past e rest hsplit => ?_, fun henabled => ?_⟩
  · obtain ⟨before, call, after, rfl, rfl, rfl, -⟩ := Machine.trace_split hsplit
    set m := machine.run new before with hm
    have hsound := run_inputSound before
    rw [← hm] at hsound
    have hgeneration := generation_eq_zero_iff before
    rw [← hm] at hgeneration
    have hcall := hrange call (by simp)
    refine ⟨refused_unchanged m call, ?_, ?_, ?_⟩
    · rintro event rfl
      exact applyChecked_eq hcall
    · rintro ⟨event, actions, rfl, hactions, hne⟩
      change Reply.actions (.applied (m.apply event).2) = _ at hactions
      change ((∀ x ∈ _, ¬ Advances x) → (m.apply event).1.generation = event.generation) ∧
        (_ → (m.apply event).1.generation = m.generation + 1)
      change event.generation ≠ m.generation at hne
      have happlied := apply_applied m event
      generalize m.apply event = r at happlied hactions
      cases happlied with
      | refused => cases hactions
      | duplicate hsame => exact absurd hsame hne
      | moved _ hnext =>
        refine ⟨fun _ => rfl, fun hpast => hnext.resolve_left fun hzero => ?_⟩
        obtain ⟨x, hx, hadvance⟩ := hpast
        exact hgeneration.mp hzero x hx hadvance
    · rintro event actions rfl hactions
      have hadvances : event.generation ≠ m.generation →
          Advances (machine.occurrence m (.apply event)) :=
        fun hne => ⟨event, actions, rfl, hactions, hne⟩
      change Reply.actions (.applied (m.apply event).2) = _ at hactions
      change (_ ∧ actions = (if m.controlledLease then _ else []) ++ m.routeActions event) ∨
        event.generation = m.generation ∧ (m.apply event).1 = m ∧ actions = []
      have happlied := apply_applied m event
      generalize m.apply event = r at happlied hactions
      cases happlied with
      | refused => cases hactions
      | duplicate hsame =>
        cases hactions
        exact .inr ⟨hsame, rfl, rfl⟩
      | moved hnewer =>
        cases hactions
        refine .inl ⟨hadvances (by omega), ?_⟩
        have hactive : (m.controlledLease = true ∨ m.inputEnabled = true) ↔
            m.controlledLease = true := or_iff_left_of_imp hsound.lease
        simp only [undoActions, hactive]
  · have hsound := run_inputSound calls
    have hlease := hsound.lease henabled
    obtain ⟨route, hroute⟩ := Option.ne_none_iff_exists'.mp (hsound.current hlease)
    exact ⟨hlease, route, hroute, hsound.route route hroute⟩

/-- A session that is observed, controlled and observed to be locked. -/
def sampleCalls : List Call :=
  let session : RouteSession :=
    { platform := .windows, osSessionId := 1, desktop := .normal, generation := 4 }
  [.apply (.sessionAvailable session), .beginControl 4,
    .apply (.sessionAvailable { session with desktop := .lockedLogin, generation := 5 })]

theorem route_actions_sample :
    (∀ call ∈ sampleCalls, call.generation ≤ u64Max) ∧
      ∃ past e, machine.trace new sampleCalls = past ++ [e] ∧ Advances e ∧
        e.after.generation = e.before.generation + 1 ∧
        e.output.actions = some [.freezeInput, .releaseAllInput, .peerDisconnected,
          .publishRoute { platform := .windows, osSessionId := 1, desktop := .lockedLogin
                          generation := 5 }] := by
  have hrange : ∀ call ∈ sampleCalls, call.generation ≤ u64Max := by
    intro call hcall
    simp only [sampleCalls, List.mem_cons, List.not_mem_nil, or_false] at hcall
    rcases hcall with rfl | rfl | rfl <;> decide
  have hadvances : Advances (machine.occurrence (machine.run new (sampleCalls.take 2))
      (.apply (.sessionAvailable
        { platform := .windows, osSessionId := 1, desktop := .lockedLogin, generation := 5 }))) :=
    ⟨_, _, rfl, rfl, by decide⟩
  have hfirst : Advances (machine.occurrence new (.apply (.sessionAvailable
      { platform := .windows, osSessionId := 1, desktop := .normal, generation := 4 }))) :=
    ⟨_, _, rfl, rfl, by decide⟩
  have hsplit : machine.trace new sampleCalls =
      machine.trace new (sampleCalls.take 2) ++ machine.occurrence
        (machine.run new (sampleCalls.take 2)) (.apply (.sessionAvailable
          { platform := .windows, osSessionId := 1, desktop := .lockedLogin
            generation := 5 })) :: [] := rfl
  have hstep := ((route_actions sampleCalls hrange).1 _ _ _ hsplit).2.2.1 hadvances
  exact ⟨hrange, _, _, hsplit, hadvances, hstep.2 ⟨_, List.mem_cons_self, hfirst⟩, rfl⟩

/-- A repetition of the observed route asks for nothing while control is active. -/
theorem duplicate_keeps_control :
    ∃ (calls : List Call) (event : RouteEvent),
      (∀ call ∈ calls ++ [.apply event], call.generation ≤ u64Max) ∧
      (machine.run new calls).controlledLease = true ∧
      (machine.run new calls).inputEnabled = true ∧
      ((machine.run new calls).apply event).2 = .ok [] := by
  refine ⟨sampleCalls.take 2, .sessionAvailable
    { platform := .windows, osSessionId := 1, desktop := .normal, generation := 4 }, ?_, ?_⟩
  · intro call hcall
    simp only [sampleCalls, List.take_succ_cons, List.take_zero, List.cons_append,
      List.nil_append, List.mem_cons, List.not_mem_nil, or_false] at hcall
    rcases hcall with rfl | rfl | rfl <;> decide
  · exact ⟨rfl, rfl, rfl⟩

end SessionStateMachine

end Bridge

end Roammand
