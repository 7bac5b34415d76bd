import Mathlib.Data.List.Basic

/-! Machines that answer each input with an output, and their runs. A run keeps every event
with the states around it, so an observation of the run is a function of its events. -/
namespace VirtualCcid.Runs

/-- A deterministic machine with state `σ`, inputs `ι` and outputs `ο`. -/
structure Machine (σ ι ο : Type*) where
  step : σ → ι → ο × σ

structure Event (σ ι ο : Type*) where
  before : σ
  input : ι
  output : ο
  after : σ

variable {σ ι ο : Type*}

def Machine.event (M : Machine σ ι ο) (s : σ) (i : ι) : Event σ ι ο :=
  ⟨s, i, (M.step s i).1, (M.step s i).2⟩

/-- The events of a run from `s₀`, oldest first, and the state it ends in. -/
inductive Run (M : Machine σ ι ο) (s₀ : σ) : List (Event σ ι ο) → σ → Prop
  | start : Run M s₀ [] s₀
  | step {h s} (i : ι) : Run M s₀ h s → Run M s₀ (h ++ [M.event s i]) (M.event s i).after

variable {M : Machine σ ι ο} {s₀ s : σ} {h : List (Event σ ι ο)}

/-- What holds at the start and is kept by every admitted step holds at the end of every run
of admitted steps. The invariant may speak of the events so far. -/
theorem Run.invariant {A : Event σ ι ο → Prop} {P : List (Event σ ι ο) → σ → Prop}
    (start : P [] s₀)
    (step : ∀ h s i, P h s → A (M.event s i) → P (h ++ [M.event s i]) (M.event s i).after)
    (hr : Run M s₀ h s) (ha : ∀ e ∈ h, A e) : P h s := by
  induction hr with
  | start => exact start
  | step i _ ih =>
    exact step _ _ i (ih fun e he => ha e (by simp [he])) (ha _ (by simp))

/-- The events before an event of a run are a run to the state it starts in. -/
theorem Run.split (hr : Run M s₀ h s) {pre post : List (Event σ ι ο)} {e : Event σ ι ο}
    (hs : h = pre ++ e :: post) : Run M s₀ pre e.before ∧ e = M.event e.before e.input := by
  induction hr generalizing post with
  | start => simp at hs
  | step i hr ih =>
    rcases post.eq_nil_or_concat with rfl | ⟨post, last, rfl⟩
    · obtain ⟨rfl, rfl⟩ := List.append_singleton_inj.mp hs
      exact ⟨hr, rfl⟩
    · rw [List.concat_eq_append, ← List.cons_append, ← List.append_assoc] at hs
      exact ih (List.append_singleton_inj.mp hs).1

theorem Run.before (hr : Run M s₀ h s) :
    ∀ e ∈ h, ∃ pre, Run M s₀ pre e.before ∧ e = M.event e.before e.input ∧ ∀ d ∈ pre, d ∈ h := by
  intro e he
  obtain ⟨pre, post, hs⟩ := List.append_of_mem he
  obtain ⟨hp, heq⟩ := hr.split hs
  exact ⟨pre, hp, heq, fun d hd => by simp [hs, hd]⟩

/-- `s` ends a run of admitted steps. -/
def Machine.Reachable (M : Machine σ ι ο) (A : Event σ ι ο → Prop) (s₀ s : σ) : Prop :=
  ∃ h, Run M s₀ h s ∧ ∀ e ∈ h, A e

theorem Machine.Reachable.invariant {A : Event σ ι ο → Prop} {P : σ → Prop} (start : P s₀)
    (step : ∀ s i, P s → A (M.event s i) → P (M.event s i).after)
    (hr : M.Reachable A s₀ s) : P s := by
  obtain ⟨h, hr, ha⟩ := hr
  exact hr.invariant (P := fun _ s => P s) start (fun _ s i => step s i) ha

/-- A run given by its inputs alone. -/
def Machine.history (M : Machine σ ι ο) (s : σ) : List ι → List (Event σ ι ο)
  | [] => []
  | i :: is => M.event s i :: M.history (M.event s i).after is

def Machine.final (M : Machine σ ι ο) (s : σ) : List ι → σ
  | [] => s
  | i :: is => M.final (M.event s i).after is

theorem Machine.history_append (M : Machine σ ι ο) (s : σ) (is js : List ι) :
    M.history s (is ++ js) = M.history s is ++ M.history (M.final s is) js := by
  induction is generalizing s with
  | nil => rfl
  | cons i is ih => rw [List.cons_append, history, ih, history, final, List.cons_append]

theorem Run.append_inputs (hr : Run M s₀ h s) (is : List ι) :
    Run M s₀ (h ++ M.history s is) (M.final s is) := by
  induction is generalizing h s with
  | nil => simpa [Machine.history, Machine.final] using hr
  | cons i is ih => simpa [Machine.history, Machine.final] using ih (hr.step i)

theorem Machine.run_of_inputs (M : Machine σ ι ο) (s₀ : σ) (is : List ι) :
    Run M s₀ (M.history s₀ is) (M.final s₀ is) := by
  simpa using (Run.start : Run M s₀ [] s₀).append_inputs is

end VirtualCcid.Runs
