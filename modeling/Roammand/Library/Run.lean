import Mathlib.Data.List.Basic
import Mathlib.Data.List.Induction
import Mathlib.Order.Defs.PartialOrder
import Mathlib.Tactic.Common

/-!
# Runs of a deterministic machine

A component is embedded as a total step function that takes a state and an
input and returns the next state with an output.  This module develops the
runs of such a machine: the state a list of inputs leads to, the trace of what
happened on the way, and the rules that lift a fact about one step to a fact
about a whole run.

Main results:

- Definitions `Machine.run` and `Machine.trace`: the final state and the list of
  occurrences of a run.
- Theorem `Machine.trace_split`: a position in a trace is a position in the
  input list.
- Theorem `Machine.run_invariant`: an invariant kept by every step whose input is
  allowed is kept by every run whose inputs are all allowed.
- Theorem `Machine.history_invariant`: the same rule for a predicate that also
  speaks about everything that has happened so far.
- Theorems `Machine.ordered_invariant` and `Machine.ordered_lockstep`: the same rule
  for inputs that come in the order of their times, and the rule for two runs of them.
-/

namespace Library

universe u v w

/-- A deterministic machine: one step consumes an input and yields the next
state together with an output. -/
structure Machine (σ : Type u) (ι : Type v) (ω : Type w) where
  step : σ → ι → σ × ω

/-- One step of a run, with the state before and the state after it. -/
structure Occurrence (σ : Type u) (ι : Type v) (ω : Type w) where
  before : σ
  input : ι
  output : ω
  after : σ

namespace Machine

variable {σ : Type u} {ι : Type v} {ω : Type w}

/-- The occurrence of input `i` in state `s`. -/
def occurrence (M : Machine σ ι ω) (s : σ) (i : ι) : Occurrence σ ι ω :=
  { before := s, input := i, output := (M.step s i).2, after := (M.step s i).1 }

/-- The state after a list of inputs. -/
def run (M : Machine σ ι ω) : σ → List ι → σ
  | s, [] => s
  | s, i :: is => M.run (M.step s i).1 is

/-- Everything that happens while a list of inputs is consumed. -/
def trace (M : Machine σ ι ω) : σ → List ι → List (Occurrence σ ι ω)
  | _, [] => []
  | s, i :: is => M.occurrence s i :: M.trace (M.step s i).1 is

/-- Every input of the run is allowed in the state that consumes it. -/
def Guarded (M : Machine σ ι ω) (G : σ → ι → Prop) : σ → List ι → Prop
  | _, [] => True
  | s, i :: is => G s i ∧ M.Guarded G (M.step s i).1 is

instance decidableGuarded (M : Machine σ ι ω) (G : σ → ι → Prop) [∀ s i, Decidable (G s i)] :
    ∀ (s : σ) (is : List ι), Decidable (M.Guarded G s is)
  | _, [] => isTrue trivial
  | s, i :: is =>
    have := decidableGuarded M G (M.step s i).1 is
    inferInstanceAs (Decidable (G s i ∧ M.Guarded G (M.step s i).1 is))

variable {M : Machine σ ι ω} {G : σ → ι → Prop}

variable (s : σ) (is : List ι) (i : ι)

@[simp]
theorem occurrence_before : (M.occurrence s i).before = s := rfl

@[simp]
theorem occurrence_input : (M.occurrence s i).input = i := rfl

@[simp]
theorem occurrence_output :
    (M.occurrence s i).output = (M.step s i).2 := rfl

@[simp]
theorem occurrence_after :
    (M.occurrence s i).after = (M.step s i).1 := rfl

@[simp]
theorem run_nil : M.run s [] = s := rfl

@[simp]
theorem run_cons (is : List ι) :
    M.run s (i :: is) = M.run (M.step s i).1 is := rfl

@[simp]
theorem trace_nil : M.trace s [] = [] := rfl

@[simp]
theorem trace_cons (is : List ι) :
    M.trace s (i :: is) = M.occurrence s i :: M.trace (M.step s i).1 is := rfl

@[simp]
theorem guarded_nil : M.Guarded G s [] := trivial

@[simp]
theorem guarded_cons (is : List ι) :
    M.Guarded G s (i :: is) ↔ G s i ∧ M.Guarded G (M.step s i).1 is := Iff.rfl

/-! ## Concatenation and positions -/

theorem run_append (is js : List ι) :
    M.run s (is ++ js) = M.run (M.run s is) js := by
  induction is generalizing s with
  | nil => rfl
  | cons i is ih => exact ih _

theorem trace_append (is js : List ι) :
    M.trace s (is ++ js) = M.trace s is ++ M.trace (M.run s is) js := by
  induction is generalizing s with
  | nil => rfl
  | cons i is ih =>
    simp only [List.cons_append, trace_cons, run_cons]
    rw [ih]

theorem run_snoc :
    M.run s (is ++ [i]) = (M.step (M.run s is) i).1 :=
  run_append s is [i]

theorem trace_snoc :
    M.trace s (is ++ [i]) = M.trace s is ++ [M.occurrence (M.run s is) i] :=
  trace_append s is [i]

/-- A split of a trace is the trace of a split of the inputs. -/
theorem trace_eq_append {s : σ} {is : List ι} {pre post : List (Occurrence σ ι ω)}
    (h : M.trace s is = pre ++ post) :
    ∃ is₁ is₂, is = is₁ ++ is₂ ∧ pre = M.trace s is₁ ∧
      post = M.trace (M.run s is₁) is₂ := by
  induction is generalizing s pre with
  | nil =>
    obtain ⟨rfl, rfl⟩ := List.append_eq_nil_iff.mp h.symm
    exact ⟨[], [], rfl, rfl, rfl⟩
  | cons i is ih =>
    cases pre with
    | nil => exact ⟨[], i :: is, rfl, rfl, h.symm⟩
    | cons e pre =>
      simp only [trace_cons, List.cons_append, List.cons.injEq] at h
      obtain ⟨is₁, is₂, rfl, hpre, hpost⟩ := ih h.2
      exact ⟨i :: is₁, is₂, rfl, by rw [trace_cons, ← h.1, hpre], hpost⟩

/-- A position in a trace is a position in the inputs. -/
theorem trace_split {s : σ} {is : List ι} {pre post : List (Occurrence σ ι ω)}
    {e : Occurrence σ ι ω} (h : M.trace s is = pre ++ e :: post) :
    ∃ is₁ i is₂, is = is₁ ++ i :: is₂ ∧ pre = M.trace s is₁ ∧
      e = M.occurrence (M.run s is₁) i ∧ post = M.trace e.after is₂ := by
  obtain ⟨is₁, rest, rfl, hpre, hrest⟩ := trace_eq_append h
  cases rest with
  | nil => simp at hrest
  | cons i is₂ =>
    simp only [trace_cons, List.cons.injEq] at hrest
    obtain ⟨rfl, hpost⟩ := hrest
    exact ⟨is₁, i, is₂, rfl, hpre, rfl, hpost⟩

/-- The inputs of a trace are the inputs of the run. -/
theorem trace_map_input : (M.trace s is).map (·.input) = is := by
  induction is generalizing s with
  | nil => rfl
  | cons i is ih => simp [ih]

theorem input_mem_of_mem_trace {s : σ} {is : List ι} {e : Occurrence σ ι ω}
    (h : e ∈ M.trace s is) : e.input ∈ is := by
  rw [← trace_map_input (M := M) s is]
  exact List.mem_map.mpr ⟨e, h, rfl⟩

/-! ## Lifting a step fact to a run -/

theorem guarded_append (is js : List ι) :
    M.Guarded G s (is ++ js) ↔ M.Guarded G s is ∧ M.Guarded G (M.run s is) js := by
  induction is generalizing s with
  | nil => simp
  | cons i is ih => simp [ih, and_assoc]

/-- A run is allowed exactly if each of its steps is. -/
theorem guarded_iff_trace :
    M.Guarded G s is ↔ ∀ e ∈ M.trace s is, G e.before e.input := by
  induction is generalizing s with
  | nil => simp
  | cons i is ih => simp [ih]

/-- A history predicate that every allowed step extends holds of the whole
history after every allowed run. -/
theorem history_invariant (H : List (Occurrence σ ι ω) → σ → Prop)
    (hstep : ∀ past s i, H past s → G s i →
      H (past ++ [M.occurrence s i]) (M.step s i).1)
    (past : List (Occurrence σ ι ω)) {s : σ} {is : List ι}
    (hinit : H past s) (hguard : M.Guarded G s is) :
    H (past ++ M.trace s is) (M.run s is) := by
  induction is generalizing past s with
  | nil => simpa using hinit
  | cons i is ih =>
    have hnext := hstep past s i hinit hguard.1
    simpa using ih _ hnext hguard.2

variable (Inv : σ → Prop)

/-- An invariant that every allowed step keeps holds after every allowed run. -/
theorem run_invariant (hstep : ∀ s i, Inv s → G s i → Inv (M.step s i).1)
    {s : σ} {is : List ι} (hinit : Inv s) (hguard : M.Guarded G s is) :
    Inv (M.run s is) :=
  history_invariant (fun _ s => Inv s) (fun _ s i hs hi => hstep s i hs hi) [] hinit hguard

variable {τ : Type*}

/-- A history predicate that speaks about a time, for inputs that come in the order of their
times: it is kept while time passes, and by every step at its own time. -/
theorem ordered_invariant [Preorder τ] (time : ι → τ) (A : ι → Prop)
    (H : List (Occurrence σ ι ω) → σ → τ → Prop)
    (hlater : ∀ past s t t', t ≤ t' → H past s t → H past s t')
    (hstep : ∀ past s i, A i → H past s (time i) →
      H (past ++ [M.occurrence s i]) (M.step s i).1 (time i))
    {s : σ} (hinit : ∀ t, H [] s t) {is : List ι} (hallowed : ∀ i ∈ is, A i)
    (hordered : (is.map time).Pairwise (· ≤ ·)) {t : τ} (ht : ∀ i ∈ is, time i ≤ t) :
    H (M.trace s is) (M.run s is) t := by
  induction is using List.reverseRecOn generalizing t with
  | nil => exact hinit t
  | append_singleton is i ih =>
    rw [List.map_append, List.pairwise_append] at hordered
    have hbefore : ∀ j ∈ is, time j ≤ time i := fun j hj =>
      hordered.2.2 _ (List.mem_map_of_mem hj) _ (by simp)
    have hi : i ∈ is ++ [i] := by simp
    have h := ih (fun j hj => hallowed j (List.mem_append_left _ hj)) hordered.1 hbefore
    rw [trace_snoc, run_snoc]
    exact hlater _ _ _ _ (ht i hi) (hstep _ _ _ (hallowed i hi) h)

/-- Two runs of inputs that come in the order of their times: until an input sets them apart, each
step has the same output in both and keeps what relates them. -/
theorem ordered_lockstep [Preorder τ] (time : ι → τ) (A : ι → Prop)
    (R : σ → σ → τ → Prop) (Apart : σ → σ → ι → Prop)
    (hlater : ∀ s s' t t', t ≤ t' → R s s' t → R s s' t')
    (hstep : ∀ s s' i, A i → R s s' (time i) → ¬ Apart s s' i →
      (M.step s' i).2 = (M.step s i).2 ∧ R (M.step s i).1 (M.step s' i).1 (time i))
    {s s' : σ} {t : τ} (hinit : R s s' t) {first rest : List ι} {i : ι}
    (hallowed : ∀ j ∈ first ++ i :: rest, A j)
    (hordered : ((first ++ i :: rest).map time).Pairwise (· ≤ ·))
    (ht : ∀ j ∈ first ++ i :: rest, t ≤ time j)
    (happart : ∀ pre j post, first ++ [i] = pre ++ j :: post →
      ¬ Apart (M.run s pre) (M.run s' pre) j) :
    (M.step (M.run s' first) i).2 = (M.step (M.run s first) i).2 := by
  induction first generalizing s s' t with
  | nil =>
    have hi : i ∈ [] ++ i :: rest := List.mem_cons_self ..
    have h := hlater _ _ _ _ (ht i hi) hinit
    exact (hstep _ _ _ (hallowed i hi) h (happart [] i [] rfl)).1
  | cons j first ih =>
    have hj : j ∈ j :: first ++ i :: rest := List.mem_cons_self ..
    have h := hlater _ _ _ _ (ht j hj) hinit
    have hnext := (hstep _ _ _ (hallowed j hj) h (happart [] j _ rfl)).2
    obtain ⟨hle, hordered⟩ := List.pairwise_cons.mp hordered
    exact ih hnext (fun k hk => hallowed k (List.mem_cons_of_mem _ hk)) hordered
      (fun k hk => hle _ (List.mem_map_of_mem hk))
      (fun pre k post h => happart (j :: pre) k post (congrArg (j :: ·) h))

/-- A run whose inputs are allowed in every state is allowed. -/
theorem guarded_of_mem {is : List ι} (h : ∀ i ∈ is, ∀ s, G s i) (s : σ) :
    M.Guarded G s is := by
  induction is generalizing s with
  | nil => trivial
  | cons i is ih =>
    exact ⟨h i (by simp) s, ih (fun j hj => h j (List.mem_cons_of_mem _ hj)) _⟩

/-- Every run is allowed when nothing is asked of it. -/
theorem guarded_true : M.Guarded (fun _ _ => True) s is :=
  guarded_of_mem (fun _ _ _ => trivial) s

/-- A guarded invariant holds at each occurrence of the run. -/
theorem trace_invariant (hstep : ∀ s i, Inv s → G s i → Inv (M.step s i).1)
    {s : σ} {is : List ι} (hinit : Inv s) (hguard : M.Guarded G s is)
    {e : Occurrence σ ι ω} (he : e ∈ M.trace s is) :
    Inv e.before ∧ G e.before e.input ∧ Inv e.after ∧
      e = M.occurrence e.before e.input := by
  induction is generalizing s with
  | nil => simp at he
  | cons i is ih =>
    have hnext := hstep s i hinit hguard.1
    rw [trace_cons, List.mem_cons] at he
    rcases he with rfl | he
    · exact ⟨hinit, hguard.1, hnext, rfl⟩
    · exact ih hnext hguard.2 he

end Machine

end Library
