import Mathlib.Data.List.Induction
import VirtualCcid.Runs.Machine

/-! Safety monitors over what a run shows, latches that hold what was set last, and recorders
that show the calls of a component. -/
namespace VirtualCcid.Runs

/-- A state fed with observations, and the observations it permits in each state. -/
structure Monitor (κ τ : Type*) where
  start : τ
  next : τ → κ → τ
  permits : τ → κ → Prop

namespace Monitor
variable {κ τ : Type*} (m : Monitor κ τ)

def after (t : τ) (es : List κ) : τ := es.foldl m.next t

def Accepts : τ → List κ → Prop
  | _, [] => True
  | t, e :: es => m.permits t e ∧ Accepts (m.next t e) es

instance decidableAccepts [∀ t e, Decidable (m.permits t e)] :
    ∀ t es, Decidable (m.Accepts t es)
  | _, [] => isTrue trivial
  | t, e :: es =>
    have := decidableAccepts (m.next t e) es
    inferInstanceAs (Decidable (m.permits t e ∧ m.Accepts (m.next t e) es))

@[simp] theorem after_nil (t : τ) : m.after t [] = t := rfl

@[simp] theorem after_cons (t : τ) (e : κ) (es : List κ) :
    m.after t (e :: es) = m.after (m.next t e) es := rfl

theorem after_append (t : τ) (es fs : List κ) :
    m.after t (es ++ fs) = m.after (m.after t es) fs := List.foldl_append

theorem accepts_append (t : τ) (es fs : List κ) :
    m.Accepts t (es ++ fs) ↔ m.Accepts t es ∧ m.Accepts (m.after t es) fs := by
  induction es generalizing t with
  | nil => simp [Accepts]
  | cons e es ih => simp only [List.cons_append, Accepts, ih, after_cons, and_assoc]

theorem permits_of_accepts {t : τ} {es pre post : List κ} {e : κ} (h : m.Accepts t es)
    (hs : es = pre ++ e :: post) : m.permits (m.after t pre) e := by
  rw [hs, accepts_append] at h
  exact h.2.1

theorem kept_of_accepts {J : τ → Prop} {es : List κ}
    (step : ∀ t, ∀ e ∈ es, J t → m.permits t e → J (m.next t e)) {t : τ} (ht : J t)
    (h : m.Accepts t es) : J (m.after t es) := by
  induction es generalizing t with
  | nil => exact ht
  | cons e es ih =>
    have hnext := step t e List.mem_cons_self ht h.1
    exact ih (fun t f hf => step t f (List.mem_cons_of_mem _ hf)) hnext h.2

/-- From a state with `P` the monitor accepts `es` and ends in a state with `Q`. -/
def Carries (P : τ → Prop) (es : List κ) (Q : τ → Prop) : Prop :=
  ∀ t, P t → m.Accepts t es ∧ Q (m.after t es)

variable {m} {P Q S : τ → Prop} {es fs : List κ}

theorem Carries.nil (h : ∀ t, P t → Q t) : m.Carries P [] Q :=
  fun t ht => ⟨trivial, h t ht⟩

theorem Carries.append (h : m.Carries P es Q) (h' : m.Carries Q fs S) :
    m.Carries P (es ++ fs) S := by
  intro t ht
  obtain ⟨hes, hq⟩ := h t ht
  obtain ⟨hfs, hs⟩ := h' _ hq
  rw [accepts_append, after_append]
  exact ⟨⟨hes, hfs⟩, hs⟩

theorem Carries.single {e : κ} (h : ∀ t, P t → m.permits t e ∧ Q (m.next t e)) :
    m.Carries P [e] Q := by
  intro t ht
  obtain ⟨hpermits, hq⟩ := h t ht
  exact ⟨⟨hpermits, trivial⟩, hq⟩

end Monitor

section Latch
variable {κ β : Type*} (sets : κ → Option β) (clears : κ → Bool)

/-- What the last setting observation set, unless one has cleared it since. -/
def latched (held : Option β) (e : κ) : Option β :=
  (sets e).or (if clears e then none else held)

/-- `b` was set by one of the observations, and not cleared or set anew by a later one. -/
def Held (es : List κ) (b : β) : Prop :=
  ∃ before e after, es = before ++ e :: after ∧ sets e = some b ∧
    ∀ d ∈ after, sets d = none ∧ clears d = false

variable {sets clears}

theorem held_append_singleton {es : List κ} {e : κ} {b : β} :
    Held sets clears (es ++ [e]) b ↔
      sets e = some b ∨ sets e = none ∧ clears e = false ∧ Held sets clears es b := by
  constructor
  · intro ⟨before, d, after, hs, hset, hafter⟩
    rcases after.eq_nil_or_concat with rfl | ⟨after, last, rfl⟩
    · obtain ⟨-, rfl⟩ := List.append_singleton_inj.mp hs
      exact Or.inl hset
    · rw [List.concat_eq_append, ← List.cons_append, ← List.append_assoc] at hs
      obtain ⟨rfl, rfl⟩ := List.append_singleton_inj.mp hs
      obtain ⟨hnone, hclears⟩ := hafter e (by simp)
      exact Or.inr ⟨hnone, hclears, before, d, after, rfl, hset, fun x hx => hafter x (by simp [hx])⟩
  · rintro (hset | ⟨hnone, hclears, before, d, after, rfl, hset, hafter⟩)
    · exact ⟨es, e, [], rfl, hset, by simp⟩
    · refine ⟨before, d, after ++ [e], by simp, hset, fun x hx => ?_⟩
      rcases List.mem_append.mp hx with hx | hx
      · exact hafter x hx
      · obtain rfl := List.mem_singleton.mp hx
        exact ⟨hnone, hclears⟩

theorem Held.filter {es : List κ} {b : β} (h : Held sets clears es b) {keep : κ → Bool}
    (hk : ∀ e, keep e = false → sets e = none) : Held sets clears (es.filter keep) b := by
  obtain ⟨before, e, after, rfl, hset, hafter⟩ := h
  have hkeep : keep e = true := by
    by_contra hdropped
    rw [hk e (Bool.not_eq_true _ ▸ hdropped)] at hset
    cases hset
  refine ⟨before.filter keep, e, after.filter keep, ?_, hset, fun d hd => ?_⟩
  · rw [List.filter_append, List.filter_cons_of_pos hkeep]
  · exact hafter d (List.mem_of_mem_filter hd)

theorem latched_eq_some_iff {es : List κ} {b : β} :
    es.foldl (latched sets clears) none = some b ↔ Held sets clears es b := by
  induction es using List.reverseRecOn with
  | nil => simp [Held]
  | append_singleton es e ih =>
    rw [List.foldl_append, held_append_singleton, ← ih]
    simp only [List.foldl_cons, List.foldl_nil, latched]
    cases hset : sets e with
    | some a => simp
    | none => cases hclears : clears e <;> simp

variable (sets clears) in
/-- What a register holds behind the observations: what was set last, or its default if nothing
was set since it was cleared last. -/
def Registers (default : β) (es : List κ) (b : β) : Prop :=
  Held sets clears es b ∨ (∀ a, ¬ Held sets clears es a) ∧ b = default

theorem Registers.unique {default a b : β} {es : List κ} (ha : Registers sets clears default es a)
    (hb : Registers sets clears default es b) : a = b := by
  rcases ha with ha | ⟨hnone, rfl⟩
  · rcases hb with hb | ⟨hnone, -⟩
    · have hlatched := latched_eq_some_iff.mpr ha
      rw [latched_eq_some_iff.mpr hb] at hlatched
      exact (Option.some.inj hlatched).symm
    · exact absurd ha (hnone a)
  · rcases hb with hb | ⟨-, rfl⟩
    · exact absurd hb (hnone b)
    · rfl

theorem Registers.held_iff {default a b : β} {es : List κ}
    (hb : Registers sets clears default es b) (ha : a ≠ default) :
    Held sets clears es a ↔ b = a := by
  constructor
  · intro hheld
    exact hb.unique (Or.inl hheld)
  · rintro rfl
    rcases hb with hheld | ⟨-, hdefault⟩
    · exact hheld
    · exact absurd hdefault ha

theorem Registers.append_singleton {default b : β} {es : List κ}
    (hb : Registers sets clears default es b) (e : κ) :
    Registers sets clears default (es ++ [e])
      ((sets e).getD (if clears e then default else b)) := by
  unfold Registers at hb ⊢
  simp only [held_append_singleton]
  cases hset : sets e with
  | some a => simp
  | none =>
    cases hclears : clears e with
    | true => simp
    | false => simpa using hb

end Latch

variable {σ ι ο κ τ : Type*} {M : Machine σ ι ο} {s₀ s : σ} {h : List (Event σ ι ο)}

/-- A part of the state that every step sets, clears or leaves as it says is a register. -/
theorem Run.registers {β : Type*} {default : β} (sets : κ → Option β) (clears : κ → Bool)
    (view : Event σ ι ο → κ) (reads : σ → β) (start : reads s₀ = default)
    (step : ∀ s i, reads (M.event s i).after =
      (sets (view (M.event s i))).getD (if clears (view (M.event s i)) then default else reads s))
    (hr : Run M s₀ h s) : Registers sets clears default (h.map view) (reads s) := by
  refine hr.invariant (A := fun _ => True)
    (P := fun h s => Registers sets clears default (h.map view) (reads s)) ?_ ?_ fun _ _ => trivial
  · exact Or.inr ⟨by simp [Held], start⟩
  · intro h s i hreg _
    rw [List.map_append, List.map_cons, List.map_nil, step]
    exact hreg.append_singleton _

/-- If a relation between states and monitor states holds at the start, and every admitted step
from related states shows accepted observations and ends in related states, then the monitor
accepts what a run shows. -/
theorem Run.accepted {A : Event σ ι ο → Prop} (m : Monitor κ τ) (view : Event σ ι ο → List κ)
    (R : σ → τ → Prop) (start : R s₀ m.start)
    (step : ∀ s i t, R s t → A (M.event s i) →
      m.Accepts t (view (M.event s i)) ∧
        R (M.event s i).after (m.after t (view (M.event s i))))
    (hr : Run M s₀ h s) (ha : ∀ e ∈ h, A e) :
    m.Accepts m.start (h.flatMap view) ∧ R s (m.after m.start (h.flatMap view)) := by
  refine hr.invariant (P := fun h s => m.Accepts m.start (h.flatMap view) ∧
    R s (m.after m.start (h.flatMap view))) ⟨trivial, start⟩ ?_ ha
  intro h s i ⟨hacc, hrel⟩ hadm
  obtain ⟨hacc', hrel'⟩ := step s i _ hrel hadm
  rw [List.flatMap_append, m.accepts_append, m.after_append]
  simpa using ⟨⟨hacc, hacc'⟩, hrel'⟩

/-- A component that notes every call made to it. -/
structure Recorder (σ κ : Type*) where
  inner : σ
  calls : List κ

def Recorder.call {α : Type*} (r : Recorder σ κ) (f : σ → α × σ) (note : α → κ) :
    α × Recorder σ κ :=
  ((f r.inner).1, ⟨(f r.inner).2, r.calls ++ [note (f r.inner).1]⟩)

end VirtualCcid.Runs
