import Roammand.Client.MobileKeyboard
import Mathlib.Data.List.Range
import Mathlib.Data.List.Perm.Basic

/-!
# The queue of the keyboard controller

The controller runs one operation at a time in the order in which they were queued, and
what it counts agrees with what it has queued.

Main results:

- Definition `KeyboardShape`: the invariant of the queue.
- Theorem `perform_shape`: every input keeps it.
- Theorem `perform_calls`: an operation that has completed makes no further call.
-/

namespace Roammand

namespace Client

open Library Host List Option

namespace MobileKeyboardController

/-- Failing operations whose futures are open completes each of them once. -/
theorem foldl_completeError (code : InputSenderErrorCode) {operations : List KeyboardOperation}
    {completions : List (Nat × Option InputSenderErrorCode)}
    (h : (completions.map (·.1) ++ operations.map (·.id)).Nodup) :
    operations.foldl (completeError code) completions =
      completions ++ operations.map fun operation => (operation.id, some code) := by
  induction operations generalizing completions with
  | nil => simp
  | cons operation operations ih =>
    have hopen : operation.id ∉ completions.map (·.1) := fun hmem =>
      (nodup_append.mp h).2.2 _ hmem _ (by simp) rfl
    have hone : completeError code completions operation =
        completions ++ [(operation.id, some code)] := if_neg hopen
    rw [foldl_cons, hone, ih (by simpa using h)]
    simp

/-- The numbers of the operations that have not come to their end. -/
def waitingIds (s : MobileKeyboardController) : List Nat := s.waiting.map (·.id)

/-- The queue is in shape. -/
structure KeyboardShape (s : MobileKeyboardController) : Prop where
  /-- Each future has completed once or belongs to one operation that is waiting. -/
  futures : (s.completions.map (·.1) ++ s.waitingIds).Perm (range s.operations.length)
  /-- The operations wait in the order in which they were queued. -/
  ordered : s.waitingIds.Pairwise (· < ·)
  bytes : s.pendingTextBytes = ((s.waiting.map (·.textBytes)).sum : Nat)
  withinBytes : s.pendingTextBytes ≤ maxPendingMobileKeyboardTextBytes
  withinCount : s.waiting.length ≤ maxPendingMobileKeyboardOperations
  /-- A closed controller has nothing left to do. -/
  ended : s.closed = true → s.waiting = [] ∧ s.activeModifiers = []
  /-- The calls were made in the order of the operations, none by one that is pending. -/
  calls : (s.calls.map (·.1)).Pairwise (· ≤ ·)
  called : ∀ c ∈ s.calls, c.1 < s.operations.length ∧ (∀ o ∈ s.pending, c.1 < o.id) ∧
    ∀ o, s.active = some o → c.1 ≤ o.id
  started : ∀ i ∈ s.invocations, i.id < s.operations.length ∧ ∀ o ∈ s.pending, i.id < o.id
  /-- Pending operations are of the current generation. -/
  current : ∀ o ∈ s.pending, ∀ next, o.task.second = some next → next.1 = s.generation
  /-- Of the started operations only the active one is of the current generation. -/
  generation : ∀ i ∈ s.invocations, ∀ next, i.next = some next → next.1 ≤ s.generation ∧
    (next.1 = s.generation ↔ s.active.map (·.id) = some i.id)

theorem new_shape (sender : RemoteInputSender) : KeyboardShape (new sender) where
  futures := .refl _
  ordered := Pairwise.nil
  bytes := rfl
  withinBytes := (by decide : (0 : Int) ≤ 32768)
  withinCount := Nat.zero_le _
  ended := nofun
  calls := Pairwise.nil
  called := nofun
  started := nofun
  current := nofun
  generation := nofun

namespace KeyboardShape

variable {s : MobileKeyboardController}

theorem withSender (h : KeyboardShape s) (sender : RemoteInputSender) :
    KeyboardShape { s with sender } :=
  { h with futures := h.futures }

theorem nodup (h : KeyboardShape s) : (s.completions.map (·.1) ++ s.waitingIds).Nodup :=
  h.futures.nodup_iff.mpr nodup_range

theorem waiting_lt (h : KeyboardShape s) {id : Nat} (hid : id ∈ s.waitingIds) :
    id < s.operations.length :=
  mem_range.mp (h.futures.subset (mem_append_right _ hid))

theorem markModifier_shape (h : KeyboardShape s) (hopen : s.closed = false)
    (modifier : MobileModifierKey) (active : Bool) :
    KeyboardShape (s.markModifier modifier active) :=
  { h with ended := fun hclosed => absurd (hclosed.symm.trans hopen) nofun }

theorem clearModifiers_shape (h : KeyboardShape s) : KeyboardShape s.clearModifiers :=
  { h with ended := fun hclosed => ⟨(h.ended hclosed).1, rfl⟩ }

/-- Giving up every operation. -/
theorem cancelOperations_shape (h : KeyboardShape s) (code : InputSenderErrorCode) :
    KeyboardShape (s.cancelOperations code) := by
  have hcompletions : (s.cancelOperations code).completions =
      s.completions ++ s.waiting.map fun operation => (operation.id, some code) :=
    foldl_completeError code h.nodup
  refine {
    futures := ?_
    ordered := Pairwise.nil
    bytes := rfl
    withinBytes := (by decide : (0 : Int) ≤ 32768)
    withinCount := Nat.zero_le _
    ended := fun hclosed => ⟨rfl, (h.ended hclosed).2⟩
    calls := h.calls
    called := fun c hc => ⟨(h.called c hc).1, nofun, nofun⟩
    started := fun i hi => ⟨(h.started i hi).1, nofun⟩
    current := nofun
    generation := ?_ }
  · have hids : (s.waiting.map fun operation => (operation.id, some code)).map (·.1) =
        s.waitingIds := by
      simp [waitingIds]
    rw [hcompletions, map_append, hids]
    simpa [waitingIds, waiting, cancelOperations, failOperations] using h.futures
  · intro i hi next hnext
    have hle := (h.generation i hi next hnext).1
    refine ⟨Nat.le_succ_of_le hle, ?_⟩
    constructor
    · intro heq
      change next.1 = s.generation + 1 at heq
      omega
    · exact nofun

theorem abort_shape (h : KeyboardShape s) : KeyboardShape s.abort := by
  unfold abort
  split_ifs
  · exact h
  · exact { h.cancelOperations_shape .channel with ended := fun _ => ⟨rfl, rfl⟩ }

theorem append_shape (h : KeyboardShape s) (hopen : s.closed = false) {task : KeyboardTask}
    {textBytes : Nat} (hroom : ¬ s.overflows textBytes)
    (htask : ∀ next, task.second = some next → next.1 = s.generation) :
    KeyboardShape (s.append task textBytes) := by
  rw [overflows, not_or, not_le, not_lt] at hroom
  have hwaiting : (s.append task textBytes).waiting =
      s.waiting ++ [⟨s.operations.length, task, textBytes⟩] := by
    simp [waiting, append]
  have hids : (s.append task textBytes).waitingIds = s.waitingIds ++ [s.operations.length] := by
    simp [waitingIds, hwaiting]
  have hlength : (s.append task textBytes).operations.length = s.operations.length + 1 := by
    simp [append]
  have hlater : ∀ {id : Nat}, id < s.operations.length → (∀ o ∈ s.pending, id < o.id) →
      ∀ o ∈ (s.append task textBytes).pending, id < o.id := by
    intro id hlt hpending o ho
    rcases mem_append.mp ho with ho | ho
    · exact hpending o ho
    · rw [mem_singleton.mp ho]
      exact hlt
  refine {
    futures := ?_
    ordered := ?_
    bytes := ?_
    withinBytes := hroom.2
    withinCount := ?_
    ended := fun hclosed => absurd (hclosed.symm.trans hopen) nofun
    calls := h.calls
    called := fun c hc => ?_
    started := fun i hi => ?_
    current := ?_
    generation := h.generation }
  · rw [hids, hlength, range_succ, ← append_assoc]
    exact h.futures.append_right _
  · rw [hids, pairwise_append]
    refine ⟨h.ordered, pairwise_singleton _ _, fun id hid last hlast => ?_⟩
    rw [mem_singleton.mp hlast]
    exact h.waiting_lt hid
  · rw [hwaiting]
    simp [append, h.bytes]
  · have hactive : s.active.toList.length = if s.active.isNone then 0 else 1 := by
      cases s.active <;> rfl
    have hcount := hroom.1
    rw [← hactive] at hcount
    rw [hwaiting]
    simp only [waiting, length_append, length_singleton]
    omega
  · obtain ⟨hlt, hpending, hactive⟩ := h.called c hc
    exact ⟨hlength ▸ Nat.lt_succ_of_lt hlt, hlater hlt hpending, hactive⟩
  · obtain ⟨hlt, hpending⟩ := h.started i hi
    exact ⟨hlength ▸ Nat.lt_succ_of_lt hlt, hlater hlt hpending⟩
  · intro o ho
    rcases mem_append.mp ho with ho | ho
    · exact h.current o ho
    · rw [mem_singleton.mp ho]
      exact htask

/-- Taking out the first pending operation. -/
theorem activate_shape (h : KeyboardShape s) {operation : KeyboardOperation}
    {pending : List KeyboardOperation} (hpending : s.pending = operation :: pending)
    (hactive : s.active = none) (hopen : s.closed = false) :
    KeyboardShape { s with pending, active := some operation } := by
  have hsame : waiting { s with pending, active := some operation } = s.waiting := by
    simp [waiting, hactive, hpending]
  have hsameIds : waitingIds { s with pending, active := some operation } = s.waitingIds :=
    congrArg (map KeyboardOperation.id) hsame
  have hfirst : operation ∈ s.pending := by simp [hpending]
  have hrest : ∀ o ∈ pending, o ∈ s.pending := fun o ho => hpending ▸ mem_cons_of_mem _ ho
  refine { h with
    futures := hsameIds ▸ h.futures
    ordered := hsameIds ▸ h.ordered
    bytes := hsame ▸ h.bytes
    withinCount := hsame ▸ h.withinCount
    ended := fun hclosed => absurd (hclosed.symm.trans hopen) nofun
    called := fun c hc => ?_
    started := fun i hi => ⟨(h.started i hi).1, fun o ho => (h.started i hi).2 o (hrest o ho)⟩
    current := fun o ho => h.current o (hrest o ho)
    generation := fun i hi next hnext => ?_ }
  · obtain ⟨hclt, hcpending, _⟩ := h.called c hc
    refine ⟨hclt, fun o ho => hcpending o (hrest o ho), fun o ho => ?_⟩
    rw [← some.inj ho]
    exact (hcpending operation hfirst).le
  · obtain ⟨hle, hcurrent⟩ := h.generation i hi next hnext
    have hne : i.id ≠ operation.id := ((h.started i hi).2 operation hfirst).ne
    refine ⟨hle, fun heq => ?_, fun heq => absurd (some.inj heq).symm hne⟩
    rw [hactive] at hcurrent
    exact absurd (hcurrent.mp heq) nofun

/-- A call by the active operation. -/
theorem call_shape (h : KeyboardShape s) (channels : InputDataChannels)
    {operation : KeyboardOperation} (hactive : s.active = some operation) (call : KeyboardCall)
    {next : Option (Nat × KeyboardCall)} (hnext : ∀ n ∈ next, n.1 = s.generation) :
    KeyboardShape (s.call channels operation.id call next) := by
  have hordered := h.ordered
  have hids : s.waitingIds = operation.id :: s.pending.map (·.id) := by
    simp [waitingIds, waiting, hactive]
  rw [hids, pairwise_cons] at hordered
  have hbefore : ∀ o ∈ s.pending, operation.id < o.id := fun o ho =>
    hordered.1 _ (mem_map_of_mem ho)
  have hlt : operation.id < s.operations.length := h.waiting_lt (by simp [hids])
  refine { h with
    calls := ?_
    called := ?_
    started := ?_
    generation := ?_ }
  · have hcalls : (s.calls ++ [(operation.id, call)]).map (·.1) =
        s.calls.map (·.1) ++ [operation.id] := by
      simp
    change ((s.calls ++ [(operation.id, call)]).map (·.1)).Pairwise (· ≤ ·)
    rw [hcalls, pairwise_append]
    refine ⟨h.calls, pairwise_singleton _ _, fun id hid last hlast => ?_⟩
    obtain ⟨c, hc, rfl⟩ := mem_map.mp hid
    rw [mem_singleton.mp hlast]
    exact (h.called c hc).2.2 operation hactive
  · intro c hc
    rcases mem_append.mp hc with hc | hc
    · exact h.called c hc
    · rw [mem_singleton.mp hc]
      refine ⟨hlt, hbefore, fun o ho => ?_⟩
      rw [← some.inj (hactive.symm.trans ho)]
  · intro i hi
    rcases mem_append.mp hi with hi | hi
    · exact h.started i hi
    · rw [mem_singleton.mp hi]
      exact ⟨hlt, hbefore⟩
  · intro i hi n hn
    rcases mem_append.mp hi with hi | hi
    · exact h.generation i hi n hn
    · rw [mem_singleton.mp hi] at hn ⊢
      have heq := hnext n hn
      exact ⟨heq.le, fun _ => congrArg (Option.map (·.id)) hactive, fun _ => heq⟩

theorem pump_shape (h : KeyboardShape s) (channels : InputDataChannels) :
    KeyboardShape (s.pump channels) := by
  unfold pump
  split
  · exact h
  · rename_i operation pending hpending
    by_cases hstop : s.closed = true ∨ s.active.isSome = true
    · rw [if_pos hstop]
      exact h
    · rw [if_neg hstop]
      rw [not_or, Bool.not_eq_true, not_isSome_iff_eq_none] at hstop
      have hactivated := h.activate_shape hpending hstop.2 hstop.1
      exact hactivated.call_shape channels rfl _ (h.current operation (by simp [hpending]))

theorem enqueue_shape (h : KeyboardShape s) (channels : InputDataChannels)
    (hopen : s.closed = false) {task : KeyboardTask} {textBytes : Nat}
    (htask : task.second = none ∨ ∃ call, task.second = some (s.generation, call)) :
    KeyboardShape (s.enqueue channels task textBytes).1 := by
  unfold enqueue
  split_ifs with hfull
  · exact h.abort_shape
  · refine (h.append_shape hopen hfull fun next hnext => ?_).pump_shape channels
    rcases htask with hnone | ⟨call, hsome⟩
    · exact absurd (hnone.symm.trans hnext) nofun
    · rw [← some.inj (hsome.symm.trans hnext)]

/-- The active operation has come to its end. -/
theorem settled_shape (h : KeyboardShape s) {operation : KeyboardOperation}
    (hactive : s.active = some operation) (hgone : ∀ i ∈ s.invocations, i.id ≠ operation.id)
    (error : Option InputSenderErrorCode) :
    KeyboardShape { s with
      active := none
      pendingTextBytes := s.pendingTextBytes - operation.textBytes
      timers := s.timers.erase operation.id
      completions := s.completions ++ [(operation.id, error)] } := by
  have hwaiting : s.waiting = operation :: s.pending := by simp [waiting, hactive]
  have hids : s.waitingIds = operation.id :: s.pending.map (·.id) := by
    simp [waitingIds, hwaiting]
  have hordered := h.ordered
  rw [hids, pairwise_cons] at hordered
  have hopen : s.closed = false := by
    refine Bool.eq_false_iff.mpr fun hclosed => ?_
    exact absurd (hwaiting.symm.trans (h.ended hclosed).1) nofun
  refine { h with
    futures := ?_
    ordered := by simpa [waitingIds, waiting] using hordered.2
    bytes := ?_
    withinBytes := ?_
    withinCount := ?_
    ended := fun hclosed => absurd (hclosed.symm.trans hopen) nofun
    called := fun c hc => ⟨(h.called c hc).1, (h.called c hc).2.1, nofun⟩
    generation := ?_ }
  · have hfutures := h.futures
    rw [hids] at hfutures
    simpa [waitingIds, waiting] using hfutures
  · have hsum := h.bytes
    rw [hwaiting] at hsum
    simp only [map_cons, sum_cons] at hsum
    simp only [waiting, toList_none, nil_append]
    omega
  · have hle := h.withinBytes
    dsimp only
    omega
  · have hle := h.withinCount
    rw [hwaiting] at hle
    simp only [waiting, toList_none, nil_append]
    simp only [length_cons] at hle
    omega
  · intro i hi next hnext
    obtain ⟨hle, hcurrent⟩ := h.generation i hi next hnext
    refine ⟨hle, fun heq => absurd (hcurrent.mp heq) ?_, nofun⟩
    rw [hactive]
    exact fun hsame => hgone i hi (some.inj hsame).symm

theorem withInvocations (h : KeyboardShape s) {invocations : List KeyboardInvocation}
    (hsub : ∀ i ∈ invocations, i ∈ s.invocations) :
    KeyboardShape { s with invocations } :=
  { h with
    started := fun i hi => h.started i (hsub i hi)
    generation := fun i hi => h.generation i (hsub i hi) }

theorem finish_shape (h : KeyboardShape s) (channels : InputDataChannels) {id : Nat}
    (hgone : ∀ i ∈ s.invocations, i.id ≠ id) (error : Option InputSenderErrorCode) :
    KeyboardShape (s.finish channels id error) := by
  unfold finish
  split
  · exact h
  · rename_i operation hactive
    by_cases hid : operation.id ≠ id
    · rw [if_pos hid]
      exact h
    · rw [if_neg hid]
      rw [not_not] at hid
      subst hid
      have hsettled := h.settled_shape hactive hgone
      split
      · exact (hsettled none).pump_shape channels
      · exact h.clearModifiers_shape.cancelOperations_shape _
      · exact (hsettled _).abort_shape

/-- An operation whose second call is still allowed is the active one. -/
theorem current_active (h : KeyboardShape s) {i : KeyboardInvocation} (hi : i ∈ s.invocations)
    {next : Nat × KeyboardCall} (hnext : i.next = some next) (hgen : s.generation = next.1) :
    ∃ operation, s.active = some operation ∧ operation.id = i.id := by
  have hactive := (h.generation i hi next hnext).2.mp hgen.symm
  exact map_eq_some_iff.mp hactive

/-- What becomes of an operation whose call has been answered. -/
theorem resumeOperation_cases (h : KeyboardShape s) (channels : InputDataChannels) (id : Nat)
    {rest : MobileKeyboardController}
    (hrest : rest = { s with invocations := s.invocations.filter (·.id ≠ id) }) :
    s.resumeOperation channels id = s ∨
      (∃ error, s.resumeOperation channels id = rest.finish channels id error) ∨
      ∃ operation call, s.active = some operation ∧ operation.id = id ∧
        s.resumeOperation channels id = rest.call channels id call none := by
  subst hrest
  unfold resumeOperation
  split
  · exact .inl rfl
  · rename_i invocation hfound
    have hmem := mem_of_find?_eq_some hfound
    have hid : invocation.id = id := by simpa using find?_some hfound
    split
    · exact .inl rfl
    · rename_i error _
      cases error with
      | some code => exact .inr (.inl ⟨_, rfl⟩)
      | none =>
        cases hnext : invocation.next with
        | none => exact .inr (.inl ⟨_, rfl⟩)
        | some next =>
          by_cases hgen : s.generation = next.1
          · obtain ⟨operation, hactive, hsame⟩ := h.current_active hmem hnext hgen
            exact .inr (.inr ⟨operation, next.2, hactive, hsame.trans hid, by simp [hgen]⟩)
          · exact .inr (.inl ⟨some .cancelled, by simp [hgen]⟩)

theorem answered_shape (h : KeyboardShape s) (id : Nat) :
    KeyboardShape { s with invocations := s.invocations.filter (·.id ≠ id) } :=
  h.withInvocations fun _ hi => (mem_filter.mp hi).1

theorem answered_gone (s : MobileKeyboardController) (id : Nat) :
    ∀ i ∈ s.invocations.filter (·.id ≠ id), i.id ≠ id := by
  intro i hi
  simpa using (mem_filter.mp hi).2

theorem resumeOperation_shape (h : KeyboardShape s) (channels : InputDataChannels) (id : Nat) :
    KeyboardShape (s.resumeOperation channels id) := by
  obtain hsame | ⟨error, hfinish⟩ | ⟨operation, call, hactive, rfl, hcall⟩ :=
    h.resumeOperation_cases channels id rfl
  · rw [hsame]
    exact h
  · rw [hfinish]
    exact (h.answered_shape id).finish_shape channels (answered_gone s id) error
  · rw [hcall]
    exact (h.answered_shape operation.id).call_shape channels hactive call (by simp)

/-- Every input keeps the queue in shape. -/
theorem perform_shape (h : KeyboardShape s) (channels : InputDataChannels)
    (input : KeyboardInput) : KeyboardShape (input.perform channels s).1 := by
  cases input with
  | setModifier modifier active =>
    change KeyboardShape (s.setModifier channels modifier active).1
    unfold setModifier
    split_ifs with hclosed
    · exact h
    · exact h
    · rw [Bool.not_eq_true] at hclosed
      exact (h.markModifier_shape hclosed _ _).enqueue_shape channels hclosed (.inl rfl)
  | sendSpecial key =>
    change KeyboardShape (s.sendSpecial channels key).1
    unfold sendSpecial
    split_ifs with hclosed
    · exact h
    · rw [Bool.not_eq_true] at hclosed
      exact h.enqueue_shape channels hclosed (.inr ⟨_, rfl⟩)
  | sendText value =>
    change KeyboardShape (s.sendText channels value).1
    unfold sendText
    split_ifs with hclosed
    · exact h
    · exact h
    · rw [Bool.not_eq_true] at hclosed
      exact h.enqueue_shape channels hclosed (.inl rfl)
  | releaseAll =>
    change KeyboardShape (s.releaseAll channels).1
    unfold releaseAll
    split_ifs with hclosed
    · exact h
    · rw [Bool.not_eq_true] at hclosed
      exact (h.cancelOperations_shape _).clearModifiers_shape.enqueue_shape channels hclosed
        (.inl rfl)
  | close =>
    change KeyboardShape (s.close channels).1
    unfold close
    split
    · exact h
    · exact { h.cancelOperations_shape .cancelled with ended := fun _ => ⟨rfl, rfl⟩ }
  | resumeOperation id => exact h.resumeOperation_shape channels id
  | operationTimeout id =>
    change KeyboardShape (s.operationTimeout id)
    unfold operationTimeout
    split_ifs
    · exact abort_shape { h with futures := h.futures }
    · exact h
  | shared action => exact h.withSender _

end KeyboardShape

/-! ## Calls of completed operations -/

/-- New calls are made by operations that had not completed, and what has completed stays
so. -/
def Calls (s s' : MobileKeyboardController) : Prop :=
  s.completions <+: s'.completions ∧
    ∃ new, s'.calls = s.calls ++ new ∧ ∀ c ∈ new, c.1 ∉ s.completions.map (·.1)

namespace Calls

variable {s s' s'' : MobileKeyboardController}

theorem of_eq (hcompletions : s.completions <+: s'.completions) (hcalls : s'.calls = s.calls) :
    Calls s s' :=
  ⟨hcompletions, [], by rw [hcalls, append_nil], nofun⟩

theorem refl (s : MobileKeyboardController) : Calls s s := .of_eq prefix_rfl rfl

theorem trans (h : Calls s s') (h' : Calls s' s'') : Calls s s'' := by
  obtain ⟨hextends, new, hcalls, hnew⟩ := h
  obtain ⟨hextends', new', hcalls', hnew'⟩ := h'
  refine ⟨hextends.trans hextends', new ++ new', ?_, fun c hc => ?_⟩
  · rw [hcalls', hcalls, append_assoc]
  · rcases mem_append.mp hc with hc | hc
    · exact hnew c hc
    · exact fun hmem => hnew' c hc ((hextends.map _).subset hmem)

end Calls

variable (code : InputSenderErrorCode)

theorem foldl_completeError_extends
    (operations : List KeyboardOperation) (completions : List (Nat × Option InputSenderErrorCode)) :
    completions <+: operations.foldl (completeError code) completions := by
  induction operations generalizing completions with
  | nil => exact prefix_rfl
  | cons operation operations ih =>
    refine IsPrefix.trans ?_ (ih _)
    unfold completeError
    split_ifs
    · exact prefix_rfl
    · exact prefix_append _ _

theorem cancelOperations_calls (s : MobileKeyboardController) :
    Calls s (s.cancelOperations code) :=
  .of_eq (foldl_completeError_extends code s.waiting s.completions) rfl

theorem abort_calls (s : MobileKeyboardController) : Calls s s.abort := by
  unfold abort
  split_ifs
  · exact .refl s
  · exact .of_eq (foldl_completeError_extends .channel s.waiting s.completions) rfl

variable (channels : InputDataChannels)

/-- An operation that is waiting has not completed. -/
theorem KeyboardShape.waiting_open {s : MobileKeyboardController} (h : KeyboardShape s) {id : Nat}
    (hid : id ∈ s.waitingIds) : id ∉ s.completions.map (·.1) :=
  fun hmem => (nodup_append.mp h.nodup).2.2 _ hmem _ hid rfl

theorem pump_calls {s : MobileKeyboardController} (h : KeyboardShape s) :
    Calls s (s.pump channels) := by
  unfold pump
  split
  · exact .refl s
  · rename_i operation pending hpending
    split_ifs
    · exact .refl s
    · refine ⟨prefix_rfl, [_], rfl, fun c hc => ?_⟩
      rw [mem_singleton.mp hc]
      exact h.waiting_open (by simp [waitingIds, waiting, hpending])

theorem enqueue_calls {s : MobileKeyboardController} (h : KeyboardShape s)
    (hopen : s.closed = false) {task : KeyboardTask} {textBytes : Nat}
    (htask : task.second = none ∨ ∃ call, task.second = some (s.generation, call)) :
    Calls s (s.enqueue channels task textBytes).1 := by
  unfold enqueue
  split_ifs with hfull
  · exact abort_calls s
  · have hshape := h.append_shape hopen hfull fun next hnext => by
      rcases htask with hnone | ⟨call, hsome⟩
      · exact absurd (hnone.symm.trans hnext) nofun
      · rw [← some.inj (hsome.symm.trans hnext)]
    exact Calls.trans (.of_eq prefix_rfl rfl) (pump_calls channels hshape)

theorem finish_calls {s : MobileKeyboardController} (h : KeyboardShape s) {id : Nat}
    (hgone : ∀ i ∈ s.invocations, i.id ≠ id) (error : Option InputSenderErrorCode) :
    Calls s (s.finish channels id error) := by
  unfold finish
  split
  · exact .refl s
  · rename_i operation hactive
    by_cases hid : operation.id ≠ id
    · rw [if_pos hid]
      exact .refl s
    · rw [if_neg hid]
      rw [not_not] at hid
      subst hid
      split
      · refine Calls.trans ?_ (pump_calls channels (h.settled_shape hactive hgone none))
        exact .of_eq (prefix_append _ _) rfl
      · exact cancelOperations_calls .cancelled s.clearModifiers
      · refine Calls.trans ?_ (abort_calls _)
        exact .of_eq (prefix_append _ _) rfl

theorem resumeOperation_calls {s : MobileKeyboardController} (h : KeyboardShape s) (id : Nat) :
    Calls s (s.resumeOperation channels id) := by
  obtain hsame | ⟨error, hfinish⟩ | ⟨operation, call, hactive, rfl, hcall⟩ :=
    h.resumeOperation_cases channels id rfl
  · rw [hsame]
    exact .refl s
  · rw [hfinish]
    have hcalls := finish_calls channels (h.answered_shape id)
      (KeyboardShape.answered_gone s id) error
    exact Calls.trans (.of_eq prefix_rfl rfl) hcalls
  · rw [hcall]
    refine ⟨prefix_rfl, [_], rfl, fun c hc => ?_⟩
    rw [mem_singleton.mp hc]
    exact h.waiting_open (by simp [waitingIds, waiting, hactive])

/-- An operation that has completed makes no further call. -/
theorem perform_calls {s : MobileKeyboardController} (h : KeyboardShape s)
    (input : KeyboardInput) : Calls s (input.perform channels s).1 := by
  cases input with
  | setModifier modifier active =>
    change Calls s (s.setModifier channels modifier active).1
    unfold setModifier
    split_ifs with hclosed
    · exact .refl s
    · exact .refl s
    · rw [Bool.not_eq_true] at hclosed
      exact Calls.trans (.of_eq prefix_rfl rfl)
        (enqueue_calls channels (h.markModifier_shape hclosed modifier active) hclosed (.inl rfl))
  | sendSpecial key =>
    change Calls s (s.sendSpecial channels key).1
    unfold sendSpecial
    split_ifs with hclosed
    · exact .refl s
    · rw [Bool.not_eq_true] at hclosed
      exact enqueue_calls channels h hclosed (.inr ⟨_, rfl⟩)
  | sendText value =>
    change Calls s (s.sendText channels value).1
    unfold sendText
    split_ifs with hclosed
    · exact .refl s
    · exact .refl s
    · rw [Bool.not_eq_true] at hclosed
      exact enqueue_calls channels h hclosed (.inl rfl)
  | releaseAll =>
    change Calls s (s.releaseAll channels).1
    unfold releaseAll
    split_ifs with hclosed
    · exact .refl s
    · rw [Bool.not_eq_true] at hclosed
      have hshape := (h.cancelOperations_shape .cancelled).clearModifiers_shape
      refine (cancelOperations_calls .cancelled s).trans ?_
      exact Calls.trans (.of_eq prefix_rfl rfl) (enqueue_calls channels hshape hclosed (.inl rfl))
  | close =>
    change Calls s (s.close channels).1
    unfold close
    split
    · exact .refl s
    · exact cancelOperations_calls .cancelled { s with closed := true }
  | resumeOperation id => exact resumeOperation_calls channels h id
  | operationTimeout id =>
    change Calls s (s.operationTimeout id)
    unfold operationTimeout
    split_ifs
    · exact abort_calls { s with timers := s.timers.erase id }
    · exact .refl s
  | shared action => exact .of_eq prefix_rfl rfl

end MobileKeyboardController

end Client

end Roammand
