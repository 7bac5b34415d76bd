import Mathlib.Data.List.Basic
import Mathlib.Data.Nat.Notation

/-! Slices, integers, locks and panics of Rust. An expression that may panic is an
`Except Panic`; a method on `&mut self` returns its result with the state it leaves, also
when it panics. -/
namespace VirtualCcid.Rust

inductive Panic where
  | indexOutOfBounds (index len : ℕ)
  | rangeOutOfBounds (start stop len : ℕ)
  | lengthMismatch (dst src : ℕ)
  deriving DecidableEq, Repr

/-- How a call ends without a value: the `Err` of its `Result`, a panic, or a loop that goes on. -/
inductive Fault (ε : Type*) where
  | error (error : ε)
  | panic (panic : Panic)
  | diverge
  deriving DecidableEq, Repr

variable {α β ε : Type*}

/-- `xs[i]`. -/
def index (xs : List α) (i : ℕ) : Except Panic α :=
  match xs[i]? with
  | some x => .ok x
  | none => .error (.indexOutOfBounds i xs.length)

/-- `&xs[start..stop]`. -/
def slice (xs : List α) (start stop : ℕ) : Except Panic (List α) :=
  if start ≤ stop ∧ stop ≤ xs.length then .ok ((xs.take stop).drop start)
  else .error (.rangeOutOfBounds start stop xs.length)

/-- `&xs[start..]`. -/
def sliceFrom (xs : List α) (start : ℕ) : Except Panic (List α) :=
  slice xs start xs.length

def copyFromSlice {n : ℕ} (_dst : Vector α n) (src : List α) : Except Panic (Vector α n) :=
  if h : src.length = n then .ok ⟨src.toArray, by simpa using h⟩
  else .error (.lengthMismatch n src.length)

theorem index_eq_ok {xs : List α} {i : ℕ} (h : i < xs.length) : index xs i = .ok xs[i] := by
  simp [index, h]

theorem slice_eq_ok {xs : List α} {start stop : ℕ} (h : start ≤ stop) (hs : stop ≤ xs.length) :
    slice xs start stop = .ok ((xs.take stop).drop start) := by
  simp [slice, h, hs]

theorem slice_returns_iff {xs : List α} {start stop : ℕ} (h : start ≤ stop) :
    (∃ ys, slice xs start stop = .ok ys) ↔ stop ≤ xs.length := by
  by_cases hs : stop ≤ xs.length <;> simp [slice, h, hs]

theorem sliceFrom_eq_ok {xs : List α} {start : ℕ} (h : start ≤ xs.length) :
    sliceFrom xs start = .ok (xs.drop start) := by
  simp [sliceFrom, slice, h]

theorem copyFromSlice_returns {n : ℕ} {src : List α} (dst : Vector α n) (h : src.length = n) :
    ∃ v, copyFromSlice dst src = .ok v ∧ v.toList = src := by
  unfold copyFromSlice
  rw [dif_pos h]
  exact ⟨_, rfl, rfl⟩

/-- The value of an expression that is known not to panic. -/
def returned (x : Except Panic α) (h : ∃ a, x = .ok a) : α :=
  match x, h with
  | .ok a, _ => a
  | .error _, h => False.elim (by simp at h)

def u32FromLeBytes (a b c d : UInt8) : ℕ :=
  a.toNat + 0x100 * b.toNat + 0x10000 * c.toNat + 0x1000000 * d.toNat

def u32ToLeBytes (n : ℕ) : List UInt8 :=
  [UInt8.ofNat n, UInt8.ofNat (n / 0x100), UInt8.ofNat (n / 0x10000),
    UInt8.ofNat (n / 0x1000000)]

theorem u32FromLeBytes_toLeBytes {n : ℕ} (h : n < 0x100000000) :
    u32FromLeBytes (UInt8.ofNat n) (UInt8.ofNat (n / 0x100)) (UInt8.ofNat (n / 0x10000))
      (UInt8.ofNat (n / 0x1000000)) = n := by
  simp only [u32FromLeBytes, UInt8.toNat_ofNat']
  omega

theorem u32FromLeBytes_lt (a b c d : UInt8) : u32FromLeBytes a b c d < 0x100000000 := by
  have ha := a.toNat_lt
  have hb := b.toNat_lt
  have hc := c.toNat_lt
  have hd := d.toNat_lt
  unfold u32FromLeBytes
  omega

theorem u32ToLeBytes_fromLeBytes (a b c d : UInt8) :
    u32ToLeBytes (u32FromLeBytes a b c d) = [a, b, c, d] := by
  have ha := a.toNat_lt
  have hb := b.toNat_lt
  have hc := c.toNat_lt
  have hd := d.toNat_lt
  have hbyte : ∀ (n : ℕ) (byte : UInt8), n % 0x100 = byte.toNat → UInt8.ofNat n = byte := by
    intro n byte h
    rw [← UInt8.toNat_inj, UInt8.toNat_ofNat']
    exact h
  unfold u32ToLeBytes u32FromLeBytes
  rw [hbyte _ a (by omega), hbyte _ b (by omega), hbyte _ c (by omega), hbyte _ d (by omega)]

def u16FromLeBytes (a b : UInt8) : UInt16 := UInt16.ofNat (a.toNat + 0x100 * b.toNat)

def u16FromBeBytes (a b : UInt8) : ℕ := 0x100 * a.toNat + b.toNat

def u16ToLeBytes (n : UInt16) : UInt8 × UInt8 :=
  (UInt8.ofNat n.toNat, UInt8.ofNat (n.toNat / 0x100))

theorem u16ToLeBytes_fromLeBytes (a b : UInt8) : u16ToLeBytes (u16FromLeBytes a b) = (a, b) := by
  have ha := a.toNat_lt
  have hb := b.toNat_lt
  have h : (u16FromLeBytes a b).toNat = a.toNat + 0x100 * b.toNat :=
    UInt16.toNat_ofNat_of_lt' (by simp only [UInt16.size]; omega)
  have hlow : UInt8.ofNat (a.toNat + 0x100 * b.toNat) = a := by
    rw [← UInt8.toNat_inj, UInt8.toNat_ofNat']
    omega
  have hhigh : UInt8.ofNat ((a.toNat + 0x100 * b.toNat) / 0x100) = b := by
    rw [← UInt8.toNat_inj, UInt8.toNat_ofNat']
    omega
  rw [u16ToLeBytes, h, hlow, hhigh]

theorem u16FromLeBytes_toLeBytes (n : UInt16) :
    u16FromLeBytes (u16ToLeBytes n).1 (u16ToLeBytes n).2 = n := by
  have hn := n.toNat_lt
  unfold u16FromLeBytes u16ToLeBytes
  rw [← UInt16.toNat_inj, UInt16.toNat_ofNat', UInt8.toNat_ofNat', UInt8.toNat_ofNat']
  omega

/-- `{:02x}`. -/
def hex02 (b : UInt8) : String :=
  let digits := Nat.toDigits 16 b.toNat
  String.ofList (if digits.length < 2 then '0' :: digits else digits)

/-- `Duration::from_millis`; an `Instant` and a `Duration` are counted in nanoseconds. -/
def fromMillis (ms : ℕ) : ℕ := ms * 1000000

/-- A `std::sync::Mutex`: a panic while its guard is held poisons it. -/
structure Mutex (β : Type*) where
  value : β
  poisoned : Bool

def Mutex.new (value : β) : Mutex β := ⟨value, false⟩

def Mutex.lock (m : Mutex β) : Except Unit β :=
  if m.poisoned then .error () else .ok m.value

theorem Mutex.lock_eq_ok {m : Mutex β} (h : m.poisoned = false) : m.lock = .ok m.value := by
  simp [Mutex.lock, h]

theorem Mutex.value_of_lock (m : Mutex β) {value : β} (h : m.lock = .ok value) :
    value = m.value := by
  unfold Mutex.lock at h
  split at h
  · cases h
  · exact (Except.ok.inj h).symm

theorem Mutex.new_value {m : Mutex β} (h : m.poisoned = false) : Mutex.new m.value = m := by
  obtain ⟨value, poisoned⟩ := m
  obtain rfl : poisoned = false := h
  rfl

end VirtualCcid.Rust
