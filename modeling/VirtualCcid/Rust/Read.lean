import VirtualCcid.Rust.Std

/-! Computations that read from a byte stream with `read_exact`, and the rules for what they
accept, what they leave unread and that they do not panic. -/
namespace VirtualCcid.Rust

/-- A computation on the bytes still to read; it leaves the bytes it did not read. -/
structure Reading (ε α : Type) where
  run : List UInt8 → Except (Fault ε) α × List UInt8

namespace Reading
variable {ε α β : Type}

instance : Monad (Reading ε) where
  pure a := ⟨fun s => (.ok a, s)⟩
  bind x f := ⟨fun s =>
    match x.run s with
    | (.ok a, t) => (f a).run t
    | (.error fault, t) => (.error fault, t)⟩

def fail (error : ε) : Reading ε α := ⟨fun s => (.error (.error error), s)⟩

/-- An expression that may panic and reads nothing. -/
def eval : Except Panic α → Reading ε α
  | .ok a => pure a
  | .error panic => ⟨fun s => (.error (.panic panic), s)⟩

/-- `read_exact` into a buffer of `n` bytes. A stream that ends before is read to its end. -/
def readExact (eof : ε) (n : ℕ) : Reading ε (List UInt8) := ⟨fun s =>
  if n ≤ s.length then (.ok (s.take n), s.drop n) else (.error (.error eof), [])⟩

variable {x : Reading ε α} {f : α → Reading ε β} {s t : List UInt8} {a : α} {b : β}

@[simp] theorem run_pure : (pure a : Reading ε α).run s = (.ok a, s) := rfl

@[simp] theorem run_fail (error : ε) :
    (fail error : Reading ε α).run s = (.error (.error error), s) := rfl

@[simp] theorem eval_ok : eval (.ok a) = (pure a : Reading ε α) := rfl

@[simp] theorem pure_then : (pure a >>= f) = f a := rfl

theorem run_bind : (x >>= f).run s =
    match x.run s with
    | (.ok a, t) => (f a).run t
    | (.error fault, t) => (.error fault, t) := rfl

theorem run_bind_of_ok (h : x.run s = (.ok a, t)) : (x >>= f).run s = (f a).run t := by
  rw [run_bind, h]

theorem run_bind_of_error {fault : Fault ε} (h : x.run s = (.error fault, t)) :
    (x >>= f).run s = (.error fault, t) := by
  rw [run_bind, h]

theorem run_bind_eq_ok_iff : (x >>= f).run s = (.ok b, t) ↔
    ∃ a m, x.run s = (.ok a, m) ∧ (f a).run m = (.ok b, t) := by
  constructor
  · intro h
    rcases hx : x.run s with ⟨fault | a, m⟩
    · rw [run_bind_of_error hx] at h
      cases h
    · rw [run_bind_of_ok hx] at h
      exact ⟨a, m, rfl, h⟩
  · intro ⟨a, m, hx, hf⟩
    rw [run_bind_of_ok hx, hf]

theorem run_readExact (eof : ε) (n : ℕ) : (readExact eof n).run s =
    if n ≤ s.length then (.ok (s.take n), s.drop n) else (.error (.error eof), []) := rfl

theorem run_readExact_append (eof : ε) {n : ℕ} (h : s.length = n) :
    (readExact eof n).run (s ++ t) = (.ok s, t) := by
  subst h
  simp [run_readExact]

/-- `read_exact` succeeds on the streams that begin with a buffer full of bytes, and reads
these. -/
theorem run_readExact_eq_ok_iff {eof : ε} {n : ℕ} {bytes : List UInt8} :
    (readExact eof n).run s = (.ok bytes, t) ↔ bytes.length = n ∧ s = bytes ++ t := by
  constructor
  · intro h
    by_cases hlen : n ≤ s.length
    · rw [run_readExact, if_pos hlen, Prod.mk.injEq, Except.ok.injEq] at h
      obtain ⟨rfl, rfl⟩ := h
      exact ⟨List.length_take_of_le hlen, (List.take_append_drop n s).symm⟩
    · rw [run_readExact, if_neg hlen] at h
      cases h
  · intro ⟨hlen, hs⟩
    rw [hs, run_readExact_append eof hlen]

def Safe (x : Reading ε α) : Prop := ∀ s panic, (x.run s).1 ≠ .error (.panic panic)

theorem safe_pure (a : α) : (pure a : Reading ε α).Safe := by
  intro s panic h
  cases h

theorem safe_fail (error : ε) : (fail error : Reading ε α).Safe := by
  intro s panic h
  cases h

theorem safe_readExact (eof : ε) (n : ℕ) : (readExact eof n).Safe := by
  intro s panic h
  by_cases hlen : n ≤ s.length
  · rw [run_readExact, if_pos hlen] at h
    cases h
  · rw [run_readExact, if_neg hlen] at h
    cases h

theorem Safe.ite {c : Prop} [Decidable c] {y : Reading ε α} (hx : x.Safe) (hy : y.Safe) :
    Safe (if c then x else y) := by
  split
  · exact hx
  · exact hy

theorem Safe.bind (hx : x.Safe) (hf : ∀ s t a, x.run s = (.ok a, t) → (f a).Safe) :
    (x >>= f).Safe := by
  intro s panic h
  rcases hs : x.run s with ⟨fault | a, t⟩
  · rw [run_bind_of_error hs] at h
    have hfault : fault = .panic panic := by cases h; rfl
    exact hx s panic (by rw [hs, hfault])
  · rw [run_bind_of_ok hs] at h
    exact hf s t a hs t panic h

/-- The computation comes to an end on every stream. -/
def Ends (x : Reading ε α) : Prop := ∀ s, (x.run s).1 ≠ .error .diverge

theorem ends_pure (a : α) : (pure a : Reading ε α).Ends := fun _ h => by cases h

theorem ends_fail (error : ε) : (fail error : Reading ε α).Ends := fun _ h => by cases h

theorem ends_eval (x : Except Panic α) : (eval x : Reading ε α).Ends := by
  cases x with
  | ok a => exact ends_pure a
  | error panic => exact fun _ h => by cases h

theorem ends_readExact (eof : ε) (n : ℕ) : (readExact eof n).Ends := by
  intro s h
  by_cases hlen : n ≤ s.length
  · rw [run_readExact, if_pos hlen] at h
    cases h
  · rw [run_readExact, if_neg hlen] at h
    cases h

theorem Ends.ite {c : Prop} [Decidable c] {y : Reading ε α} (hx : x.Ends) (hy : y.Ends) :
    Ends (if c then x else y) := by
  split
  · exact hx
  · exact hy

theorem Ends.bind (hx : x.Ends) (hf : ∀ a, (f a).Ends) : (x >>= f).Ends := by
  intro s h
  rcases hs : x.run s with ⟨fault | a, t⟩
  · rw [run_bind_of_error hs] at h
    have hfault : fault = .diverge := by cases h; rfl
    exact hx s (by rw [hs, hfault])
  · rw [run_bind_of_ok hs] at h
    exact hf a t h

end Reading

/-- How a call ends that panics on nothing and comes to an end. -/
def outcome {ε α : Type*} (x : Except (Fault ε) α) (hpanic : ∀ panic, x ≠ .error (.panic panic))
    (hends : x ≠ .error .diverge) : Except ε α :=
  match x, hpanic, hends with
  | .ok a, _, _ => .ok a
  | .error (.error error), _, _ => .error error
  | .error (.panic panic), hpanic, _ => absurd rfl (hpanic panic)
  | .error .diverge, _, hends => absurd rfl hends

theorem outcome_eq_ok {ε α : Type*} {x : Except (Fault ε) α} {hpanic hends} {a : α}
    (h : outcome x hpanic hends = .ok a) : x = .ok a := by
  obtain (error | panic | _) | a := x
  · cases h
  · exact absurd rfl (hpanic panic)
  · exact absurd rfl hends
  · exact congrArg Except.ok (Except.ok.inj h)

theorem outcome_eq_error {ε α : Type*} {x : Except (Fault ε) α} {hpanic hends} {error : ε}
    (h : outcome x hpanic hends = .error error) : x = .error (.error error) := by
  obtain (error' | panic | _) | a := x
  · cases h
    rfl
  · exact absurd rfl (hpanic panic)
  · exact absurd rfl hends
  · cases h

end VirtualCcid.Rust
