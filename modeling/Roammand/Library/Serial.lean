import Roammand.Library.Run
import Mathlib.Data.List.Range

/-!
# Tasks that run one after another

A component shares a state among asynchronous tasks.  Each task first waits for the future
of the task that was queued before it, and completes a future of its own when it has ended,
well or badly.  A task runs in sections: one up to its first await, and one after each
await.  Between two sections anything may happen.

The chain of futures makes the tasks run one after another, in the order in which they were
queued.  So a property of the shared state and of the one task that is under way need only
be kept by each section.

Main results:

- Definition `Serial.machine`: the tasks under any interleaving.
- Theorem `Serial.step_cases`: what a step can do.
- Theorem `Serial.run_invariant`: a property that each section keeps holds in every run.
- Theorem `Serial.progress`: the first task that has not ended can go on.
-/

namespace Library

variable {σ κ π α ρ : Type*}

/-- How a section of a task ends. -/
inductive Progress (π ρ : Type*) where
  | finished (result : ρ)
  | awaiting (point : π)

/-- The sections of tasks over a shared state. -/
structure TaskLogic (σ κ π α ρ : Type*) where
  /-- The section before the first await. -/
  start : κ → σ → σ × Progress π ρ
  /-- The section after an await, which has brought an answer. -/
  resume : π → α → σ → σ × Progress π ρ

/-- The shared state with all tasks. -/
structure Serial (σ κ π ρ : Type*) where
  shared : σ
  /-- Every task that has been queued, with the task whose end it waits for.  Its place is
  its number. -/
  tasks : List (κ × Option Nat)
  /-- The task that was queued last. -/
  previous : Option Nat
  /-- The tasks that await something, with the places where they do. -/
  running : List (Nat × π)
  finished : List (Nat × ρ)

/-- What happens: a task is queued, it starts when what it waits for has ended, or it goes
on with an answer. -/
inductive SerialInput (κ α : Type*) where
  | call (task : κ)
  | start (id : Nat)
  | resume (id : Nat) (answer : α)

namespace Serial

variable (shared : σ)

/-- Nothing has been queued. -/
def new : Serial σ κ π ρ where
  shared := shared
  tasks := []
  previous := none
  running := []
  finished := []

/-- Queue a task behind the last one. -/
def call (task : κ) (s : Serial σ κ π ρ) : Serial σ κ π ρ :=
  { s with tasks := s.tasks ++ [(task, s.previous)], previous := some s.tasks.length }

/-- A task has come to the end of a section. -/
def settle (id : Nat) (result : σ × Progress π ρ) (s : Serial σ κ π ρ) : Serial σ κ π ρ :=
  match result.2 with
  | .finished value =>
    { s with
      shared := result.1
      running := s.running.filter (·.1 ≠ id)
      finished := s.finished ++ [(id, value)] }
  | .awaiting point =>
    { s with shared := result.1, running := s.running.filter (·.1 ≠ id) ++ [(id, point)] }

/-- The task has ended. -/
def ended (s : Serial σ κ π ρ) (id : Nat) : Bool := id ∈ s.finished.map (·.1)

/-- Start a task that has not been started, if the task that it waits for has ended. -/
def start (logic : TaskLogic σ κ π α ρ) (id : Nat) (s : Serial σ κ π ρ) : Serial σ κ π ρ :=
  match s.tasks[id]? with
  | none => s
  | some (task, preceding) =>
    if id ∈ s.running.map (·.1) ∨ s.ended id ∨ !preceding.all s.ended then s
    else s.settle id (logic.start task s.shared)

/-- Go on with a task that awaits something. -/
def resume (logic : TaskLogic σ κ π α ρ) (id : Nat) (answer : α) (s : Serial σ κ π ρ) :
    Serial σ κ π ρ :=
  match s.running.lookup id with
  | none => s
  | some point => s.settle id (logic.resume point answer s.shared)

/-- One step. -/
def step (logic : TaskLogic σ κ π α ρ) (s : Serial σ κ π ρ) :
    SerialInput κ α → Serial σ κ π ρ
  | .call task => s.call task
  | .start id => s.start logic id
  | .resume id answer => s.resume logic id answer

/-- The tasks as a machine. -/
def machine (logic : TaskLogic σ κ π α ρ) :
    Machine (Serial σ κ π ρ) (SerialInput κ α) Unit where
  step s input := (s.step logic input, ())

theorem settle_finished {id : Nat} {result : σ × Progress π ρ} {value : ρ}
    (h : result.2 = .finished value) (s : Serial σ κ π ρ) :
    (s.settle id result).finished = s.finished ++ [(id, value)] := by
  unfold settle
  rw [h]

theorem settle_awaiting {id : Nat} {result : σ × Progress π ρ} {point : π}
    (h : result.2 = .awaiting point) (s : Serial σ κ π ρ) :
    (s.settle id result).finished = s.finished ∧
      (id, point) ∈ (s.settle id result).running := by
  unfold settle
  rw [h]
  exact ⟨rfl, List.mem_append_right _ (List.mem_singleton_self _)⟩

/-! ## One after another -/

/-- The number before a number. -/
def before : Nat → Option Nat
  | 0 => none
  | id + 1 => some id

/-- The tasks have ended in their order, and only the next one may be under way. -/
structure InTurn (s : Serial σ κ π ρ) : Prop where
  previous : s.previous = before s.tasks.length
  chain : ∀ id task preceding, s.tasks[id]? = some (task, preceding) → preceding = before id
  finished : s.finished.map (·.1) = List.range s.finished.length
  queued : s.finished.length ≤ s.tasks.length
  running : s.running = [] ∨ ∃ point, s.running = [(s.finished.length, point)] ∧
    s.finished.length < s.tasks.length

/-- The task that is under way, with the place where it awaits something. -/
def current (s : Serial σ κ π ρ) : Option (κ × π) :=
  s.running.head?.bind fun entry => s.tasks[entry.1]?.map fun task => (task.1, entry.2)

theorem new_inTurn : InTurn (new shared : Serial σ κ π ρ) where
  previous := rfl
  chain := nofun
  finished := rfl
  queued := Nat.le_refl 0
  running := .inl rfl

namespace InTurn

variable {s : Serial σ κ π ρ}

theorem ended_iff (h : InTurn s) (id : Nat) : s.ended id = true ↔ id < s.finished.length := by
  rw [ended, decide_eq_true_eq, h.finished, List.mem_range]

theorem call_inTurn (h : InTurn s) (task : κ) : InTurn (s.call task) where
  previous := by simp [call, before]
  chain := by
    intro id other preceding hother
    simp only [call, List.getElem?_append] at hother
    split at hother
    · exact h.chain id other preceding hother
    · rename_i hlate
      have hid : id = s.tasks.length := by
        by_contra hne
        rw [List.getElem?_eq_none (by simp; omega)] at hother
        cases hother
      subst hid
      simp only [Nat.sub_self, List.getElem?_cons_zero, Option.some.injEq, Prod.mk.injEq] at hother
      rw [← hother.2, h.previous]
  finished := h.finished
  queued := by
    have hqueued := h.queued
    simp only [call, List.length_append, List.length_singleton]
    omega
  running := by
    refine h.running.imp id fun ⟨point, hrunning, hlt⟩ => ⟨point, hrunning, ?_⟩
    simp only [call, List.length_append, List.length_singleton]
    omega

/-- The next task comes to the end of a section. -/
theorem settle_inTurn (h : InTurn s) (hlt : s.finished.length < s.tasks.length)
    (result : σ × Progress π ρ) : InTurn (s.settle s.finished.length result) := by
  have hnone : s.running.filter (·.1 ≠ s.finished.length) = [] := by
    rcases h.running with hrunning | ⟨point, hrunning, _⟩
    · rw [hrunning]
      rfl
    · simp [hrunning]
  unfold settle
  split
  · refine { h with finished := ?_, queued := ?_, running := .inl hnone }
    · simp [h.finished, List.range_succ]
    · simp only [List.length_append, List.length_singleton]
      omega
  · exact { h with running := .inr ⟨_, by rw [hnone]; rfl, hlt⟩ }

/-- A task can be started exactly if it is the next one and none is under way. -/
theorem start_iff (h : InTurn s) {id : Nat} {task : κ} {preceding : Option Nat}
    (htask : s.tasks[id]? = some (task, preceding)) :
    ¬ (id ∈ s.running.map (·.1) ∨ s.ended id ∨ !preceding.all s.ended) ↔
      s.running = [] ∧ id = s.finished.length := by
  have hpreceding : preceding.all s.ended = true ↔ id ≤ s.finished.length := by
    rw [h.chain id task preceding htask]
    cases id with
    | zero => simp [before]
    | succ id =>
      simp only [before, Option.all_some, h.ended_iff]
      omega
  have hid : id < s.tasks.length := (List.getElem?_eq_some_iff.mp htask).1
  simp only [not_or, h.ended_iff, Bool.not_eq_true, Bool.not_eq_false', hpreceding]
  rcases h.running with hrunning | ⟨point, hrunning, _⟩
  · simp only [hrunning, List.map_nil, List.not_mem_nil, not_false_eq_true, true_and]
    omega
  · simp only [hrunning, List.map_cons, List.map_nil, List.mem_singleton, reduceCtorEq, false_and,
      iff_false]
    omega

end InTurn

/-- What a step can do: it queues a task, it runs a section of the next task, or it does
nothing. -/
inductive Stepped (logic : TaskLogic σ κ π α ρ) (s : Serial σ κ π ρ) : Serial σ κ π ρ → Prop
  | nothing : Stepped logic s s
  | called (task : κ) : Stepped logic s (s.call task)
  | started {task : κ} {preceding : Option Nat}
      (htask : s.tasks[s.finished.length]? = some (task, preceding)) (hidle : s.running = []) :
      Stepped logic s (s.settle s.finished.length (logic.start task s.shared))
  | resumed {task : κ} {preceding : Option Nat} {point : π} (answer : α)
      (htask : s.tasks[s.finished.length]? = some (task, preceding))
      (hrunning : s.running = [(s.finished.length, point)]) :
      Stepped logic s (s.settle s.finished.length (logic.resume point answer s.shared))

/-- What a step does when the tasks run one after another. -/
theorem step_cases {s : Serial σ κ π ρ} (h : InTurn s) (logic : TaskLogic σ κ π α ρ)
    (input : SerialInput κ α) : Stepped logic s (s.step logic input) := by
  cases input with
  | call task => exact .called task
  | start id =>
    simp only [step, start]
    split
    · exact .nothing
    · rename_i task preceding htask
      by_cases hready : id ∈ s.running.map (·.1) ∨ s.ended id ∨ !preceding.all s.ended
      · rw [if_pos hready]
        exact .nothing
      · rw [if_neg hready]
        obtain ⟨hidle, rfl⟩ := (h.start_iff htask).mp hready
        exact .started htask hidle
  | resume id answer =>
    simp only [step, resume]
    split
    · exact .nothing
    · rename_i point hpoint
      rcases h.running with hrunning | ⟨other, hrunning, hlt⟩
      · rw [hrunning] at hpoint
        cases hpoint
      · obtain ⟨⟨task, preceding⟩, htask⟩ : ∃ entry, s.tasks[s.finished.length]? = some entry :=
          ⟨_, List.getElem?_eq_getElem hlt⟩
        have hfound := hpoint
        simp only [hrunning, List.lookup_cons, List.lookup_nil] at hfound
        split at hfound
        · rename_i hid
          rw [beq_iff_eq.mp hid, ← Option.some.inj hfound]
          exact .resumed answer htask hrunning
        · cases hfound

variable {logic : TaskLogic σ κ π α ρ}

theorem Stepped.inTurn {s s' : Serial σ κ π ρ}
    (hstep : Stepped logic s s') (h : InTurn s) : InTurn s' := by
  have hlt : ∀ {entry}, s.tasks[s.finished.length]? = some entry →
      s.finished.length < s.tasks.length := fun hentry =>
    (List.getElem?_eq_some_iff.mp hentry).1
  cases hstep with
  | nothing => exact h
  | called task => exact h.call_inTurn task
  | started htask _ => exact h.settle_inTurn (hlt htask) _
  | resumed answer htask _ => exact h.settle_inTurn (hlt htask) _

/-! ## Sections and runs -/

/-- The task that is under way after a section. -/
def Progress.current (task : κ) : Progress π ρ → Option (κ × π)
  | .finished _ => none
  | .awaiting point => some (task, point)

theorem settle_current {s : Serial σ κ π ρ} {task : κ} {preceding : Option Nat}
    (h : InTurn s) (htask : s.tasks[s.finished.length]? = some (task, preceding))
    (result : σ × Progress π ρ) :
    (s.settle s.finished.length result).current = Progress.current task result.2 ∧
      (s.settle s.finished.length result).shared = result.1 := by
  have hnone : s.running.filter (·.1 ≠ s.finished.length) = [] := by
    rcases h.running with hrunning | ⟨point, hrunning, _⟩
    · rw [hrunning]
      rfl
    · simp [hrunning]
  obtain ⟨shared, progress⟩ := result
  cases progress with
  | finished value =>
    simp only [settle, current, hnone]
    exact ⟨rfl, trivial⟩
  | awaiting point =>
    simp only [settle, current, hnone, List.nil_append, List.head?_cons, Option.bind_some, htask]
    exact ⟨rfl, trivial⟩

/-- A property of the shared state and the task under way that each section keeps. -/
structure Kept (logic : TaskLogic σ κ π α ρ) (Inv : σ → Option (κ × π) → Prop) : Prop where
  start : ∀ shared task, Inv shared none →
    Inv (logic.start task shared).1 (Progress.current task (logic.start task shared).2)
  resume : ∀ shared task point answer, Inv shared (some (task, point)) →
    Inv (logic.resume point answer shared).1
      (Progress.current task (logic.resume point answer shared).2)

variable {Inv : σ → Option (κ × π) → Prop}

theorem Stepped.keeps (hkept : Kept logic Inv) {s s' : Serial σ κ π ρ} (hstep : Stepped logic s s')
    (h : InTurn s) (hinv : Inv s.shared s.current) : Inv s'.shared s'.current := by
  cases hstep with
  | nothing => exact hinv
  | called task =>
    have hsame : (s.call task).current = s.current := by
      rcases h.running with hrunning | ⟨point, hrunning, hlt⟩
      · simp [current, call, hrunning]
      · simp [current, call, hrunning, List.getElem?_append_left hlt]
    rw [hsame]
    exact hinv
  | started htask hidle =>
    obtain ⟨hcurrent, hshared⟩ := settle_current h htask (logic.start _ s.shared)
    have hnone : s.current = none := by simp [current, hidle]
    rw [hcurrent, hshared]
    exact hkept.start _ _ (hnone ▸ hinv)
  | @resumed task preceding point answer htask hrunning =>
    obtain ⟨hcurrent, hshared⟩ := settle_current h htask (logic.resume _ answer s.shared)
    have hsome : s.current = some (task, point) := by simp [current, hrunning, htask]
    rw [hcurrent, hshared]
    exact hkept.resume _ _ _ _ (hsome ▸ hinv)

/-- A property that each section keeps holds in every run. -/
theorem run_invariant (hkept : Kept logic Inv) {shared : σ} (hinit : Inv shared none)
    (inputs : List (SerialInput κ α)) :
    InTurn ((machine (ρ := ρ) logic).run (new shared) inputs) ∧
      Inv ((machine logic).run (new shared) inputs).shared
        ((machine logic).run (new shared) inputs).current := by
  refine (machine logic).run_invariant (fun s => InTurn s ∧ Inv s.shared s.current) ?_
    ⟨new_inTurn shared, hinit⟩ ((machine logic).guarded_true _ inputs)
  rintro s input ⟨h, hinv⟩ -
  have hstep := step_cases h logic input
  exact ⟨hstep.inTurn h, hstep.keeps hkept h hinv⟩

/-! ## Progress -/

/-- The first task that has not ended can go on: it starts, or an answer resumes it. -/
theorem progress {s : Serial σ κ π ρ} (h : InTurn s) (logic : TaskLogic σ κ π α ρ)
    (hleft : s.finished.length < s.tasks.length) :
    (s.running = [] ∧ ∃ task preceding, s.tasks[s.finished.length]? = some (task, preceding) ∧
        s.start logic s.finished.length =
          s.settle s.finished.length (logic.start task s.shared)) ∨
      ∃ point, s.running = [(s.finished.length, point)] ∧
        ∀ answer, s.resume logic s.finished.length answer =
          s.settle s.finished.length (logic.resume point answer s.shared) := by
  rcases h.running with hrunning | ⟨point, hrunning, _⟩
  · obtain ⟨⟨task, preceding⟩, htask⟩ : ∃ entry, s.tasks[s.finished.length]? = some entry :=
      ⟨_, List.getElem?_eq_getElem hleft⟩
    refine .inl ⟨hrunning, task, preceding, htask, ?_⟩
    simp only [start, htask]
    exact if_neg ((h.start_iff htask).mpr ⟨hrunning, rfl⟩)
  · refine .inr ⟨point, hrunning, fun answer => ?_⟩
    simp [resume, hrunning]

end Serial

end Library
