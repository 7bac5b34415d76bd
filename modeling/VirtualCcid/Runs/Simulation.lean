import Mathlib.Data.List.Forall2
import VirtualCcid.Runs.Machine

/-! Machines inside machines: a machine whose steps drive another one, and machines that answer
alike whatever they are made of. -/
namespace VirtualCcid.Runs

variable {σ ι ο σ' ι' ο' α : Type*}

theorem Machine.final_append (M : Machine σ ι ο) (s : σ) (is js : List ι) :
    M.final s (is ++ js) = M.final (M.final s is) js := by
  induction is generalizing s with
  | nil => rfl
  | cons i is ih => exact ih _

theorem Machine.history_inputs (M : Machine σ ι ο) (s : σ) (is : List ι) :
    (M.history s is).map Event.input = is := by
  induction is generalizing s with
  | nil => rfl
  | cons i is ih => exact congrArg (i :: ·) (ih _)

theorem Run.of_inputs {M : Machine σ ι ο} {s₀ s : σ} {h : List (Event σ ι ο)}
    (hr : Run M s₀ h s) :
    h = M.history s₀ (h.map Event.input) ∧ s = M.final s₀ (h.map Event.input) := by
  induction hr with
  | start => exact ⟨rfl, rfl⟩
  | @step h s i hr ih =>
    obtain ⟨hh, hs⟩ := ih
    rw [List.map_append, M.history_append, M.final_append, ← hh, ← hs]
    exact ⟨rfl, rfl⟩

/-- A part of the state of `M` is a state of `M'`, and every step of `M` takes it through steps
of `M'`, by inputs that the step's own input may cause. -/
structure Drives (M : Machine σ ι ο) (M' : Machine σ' ι' ο') (part : σ → σ')
    (causes : ι → List ι' → Prop) : Prop where
  step : ∀ s i, ∃ is, causes i is ∧ part (M.step s i).2 = M'.final (part s) is

theorem exists_cause {causes : ι → List ι' → Prop} {is : List ι} {iss : List (List ι')}
    (h : List.Forall₂ causes is iss) {j : ι'} (hj : j ∈ iss.flatten) :
    ∃ i ∈ is, ∃ js, causes i js ∧ j ∈ js := by
  induction h with
  | nil => cases hj
  | @cons i js is iss hcauses _ ih =>
    rw [List.flatten_cons] at hj
    rcases List.mem_append.mp hj with hj | hj
    · exact ⟨i, List.mem_cons_self, js, hcauses, hj⟩
    · obtain ⟨i', hi', js', hcauses', hj'⟩ := ih hj
      exact ⟨i', List.mem_cons_of_mem _ hi', js', hcauses', hj'⟩

namespace Drives
variable {M : Machine σ ι ο} {M' : Machine σ' ι' ο'} {part : σ → σ'}
  {causes : ι → List ι' → Prop}

/-- Inputs of `M` drive `M'` by what each of them causes, in their order. -/
theorem final (d : Drives M M' part causes) (s : σ) (is : List ι) :
    ∃ iss, List.Forall₂ causes is iss ∧ part (M.final s is) = M'.final (part s) iss.flatten := by
  induction is generalizing s with
  | nil => exact ⟨[], .nil, rfl⟩
  | cons i is ih =>
    obtain ⟨js, hcauses, hstep⟩ := d.step s i
    obtain ⟨iss, hall, hfinal⟩ := ih (M.step s i).2
    refine ⟨js :: iss, .cons hcauses hall, ?_⟩
    rw [List.flatten_cons, M'.final_append, ← hstep]
    exact hfinal

theorem run (d : Drives M M' part causes) {s₀ s : σ} {h : List (Event σ ι ο)}
    (hr : Run M s₀ h s) :
    ∃ iss, List.Forall₂ causes (h.map Event.input) iss ∧
      Run M' (part s₀) (M'.history (part s₀) iss.flatten) (part s) := by
  obtain ⟨iss, hall, hfinal⟩ := d.final s₀ (h.map Event.input)
  rw [← hr.of_inputs.2] at hfinal
  refine ⟨iss, hall, ?_⟩
  rw [hfinal]
  exact M'.run_of_inputs _ _

end Drives

/-- Equal results, with related states behind them. -/
def Agree (R : σ → σ' → Prop) (x : α × σ) (y : α × σ') : Prop := x.1 = y.1 ∧ R x.2 y.2

theorem Agree.exists {R : σ → σ' → Prop} {x : α × σ} {y : α × σ'} (h : Agree R x y) :
    ∃ a s s', x = (a, s) ∧ y = (a, s') ∧ R s s' := by
  obtain ⟨a, s⟩ := x
  obtain ⟨a', s'⟩ := y
  obtain ⟨hresult, hstate⟩ := h
  obtain rfl : a = a' := hresult
  exact ⟨a, s, s', rfl, rfl, hstate⟩

/-- In related states two machines give equal outputs, and they stay related. -/
def Lockstep (M : Machine σ ι ο) (M' : Machine σ' ι ο) (R : σ → σ' → Prop) : Prop :=
  ∀ s s' i, R s s' → Agree R (M.step s i) (M'.step s' i)

theorem Lockstep.run {M : Machine σ ι ο} {M' : Machine σ' ι ο} {R : σ → σ' → Prop}
    (l : Lockstep M M' R) {s : σ} {s' : σ'} (hs : R s s') (is : List ι) :
    (M.history s is).map Event.output = (M'.history s' is).map Event.output ∧
      R (M.final s is) (M'.final s' is) := by
  induction is generalizing s s' with
  | nil => exact ⟨rfl, hs⟩
  | cons i is ih =>
    obtain ⟨houtput, hafter⟩ := l s s' i hs
    obtain ⟨houtputs, hfinal⟩ := ih hafter
    exact ⟨congrArg₂ List.cons houtput houtputs, hfinal⟩

end VirtualCcid.Runs
