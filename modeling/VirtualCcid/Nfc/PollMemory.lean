import VirtualCcid.Nfc.ReaderRuns

/-! What the PN532 reader remembers of its polls, as the times and the outcomes of its commands
make it. -/
namespace VirtualCcid.Nfc
open Rust Ccid Runs

variable {δ : Type*}

/-- When a target was last asked for, and what the answers since have left. -/
structure Memory where
  lastPoll : Option ℕ
  cardCached : Bool
  targetActive : Bool
  deriving DecidableEq, Repr

namespace Memory

def start : Memory := ⟨none, false, false⟩

/-- A command at `now`: an attempt to list a target counts whatever comes of it, but only an answer
tells of a card; an exchange whose status ends the activation leaves nothing. -/
def note (now : ℕ) (m : Memory) : DeviceCall → Memory
  | .dynamic .inListOneIsoATarget (.error _) => { m with lastPoll := some now }
  | .dynamic .inListOneIsoATarget (.ok response) =>
    if response = [] ∨ response.head? = some 0 then ⟨some now, false, false⟩
    else
      match returned (parseTarget response) (parseTarget_returns response) with
      | .error _ => { m with lastPoll := some now }
      | .ok _ => ⟨some now, true, true⟩
  | .dynamic (.inDataExchange data) answer =>
    if ReaderEvent.ends (.call (.dynamic (.inDataExchange data) answer)) then start else m
  | .dynamic (.rfConfiguration _) _ | .process _ _ => m

/-- `power_off` gives the target up before its command. -/
def begin (m : Memory) : ReaderOp → Memory
  | .powerOff => { m with targetActive := false }
  | .pollCard | .exchangeApdu _ => m

/-- The interval of a remembered presence has not passed at `now`: that of an absent card, or that
of a card whose target is still active. -/
def Stands (m : Memory) (now : ℕ) : Prop :=
  ∃ lastPoll, m.lastPoll = some lastPoll ∧
    (m.cardCached = false ∧ now - lastPoll < fromMillis pn532AbsentPollIntervalMs ∨
      m.targetActive = true ∧ now - lastPoll < fromMillis pn532PollIntervalMs)

theorem foldl_note_unread (now : ℕ) (m : Memory) {cs : List DeviceCall}
    (h : Pn532UartReader.Unread cs) : cs.foldl (note now) m = m := by
  induction cs with
  | nil => rfl
  | cons call cs ih =>
    obtain ⟨request, result, rfl⟩ := h call List.mem_cons_self
    exact ih fun d hd => h d (List.mem_cons_of_mem _ hd)

end Memory

namespace Pn532UartReader

def memory (r : Pn532UartReader δ) : Memory :=
  ⟨r.lastPoll, r.cachedCard.isSome, r.activeTarget.isSome⟩

/-- `r` comes to be `r'` by commands at `now`, and remembers what they leave. -/
def Remembers (now : ℕ) (r r' : Pn532UartReader (RecordedDevice δ)) (cs : List DeviceCall) : Prop :=
  r'.pn532.calls = r.pn532.calls ++ cs ∧ r'.memory = cs.foldl (Memory.note now) r.memory

theorem Remembers.refl (now : ℕ) (r : Pn532UartReader (RecordedDevice δ)) : r.Remembers now r [] :=
  ⟨(List.append_nil _).symm, rfl⟩

theorem Remembers.trans {now : ℕ} {r r' r'' : Pn532UartReader (RecordedDevice δ)}
    {cs ds : List DeviceCall} (h : r.Remembers now r' cs) (h' : r'.Remembers now r'' ds) :
    r.Remembers now r'' (cs ++ ds) := by
  refine ⟨by rw [h'.1, h.1, List.append_assoc], ?_⟩
  rw [h'.2, h.2, List.foldl_append]

variable [Pn532Device δ]

theorem setRfField_remembers (now : ℕ) (r : Pn532UartReader (RecordedDevice δ)) (enabled : Bool) :
    ∃ cs, r.Remembers now (r.setRfField enabled).2 cs := by
  obtain ⟨pn532, rf, cs, hstate, hcalls, hunread⟩ := setRfField_recorded r enabled
  refine ⟨cs, ?_, ?_⟩
  · rw [hstate]
    exact hcalls
  · rw [hstate, Memory.foldl_note_unread now _ hunread]
    rfl

theorem listing_remembers (now : ℕ) (r : Pn532UartReader (RecordedDevice δ)) (inner : δ)
    (response : List UInt8) :
    let call := .dynamic .inListOneIsoATarget (.ok response)
    ∃ cs, r.Remembers now
      (({ r with lastPoll := some now }.noted inner call).readTarget response).2 cs := by
  intro call
  let r₁ : Pn532UartReader (RecordedDevice δ) := { r with lastPoll := some now }.noted inner call
  by_cases hnone : response = [] ∨ response.head? = some 0
  · let r₂ : Pn532UartReader (RecordedDevice δ) :=
      { r₁ with activeTarget := none, cachedCard := none }
    have hforgotten : r.Remembers now r₂ [call] := by
      refine ⟨rfl, ?_⟩
      show _ = if response = [] ∨ response.head? = some 0 then _ else _
      rw [if_pos hnone]
      rfl
    obtain ⟨cs, hoff⟩ := setRfField_remembers now r₂ false
    have hread : r₂.Remembers now (r₁.readTarget response).2 cs := by
      rw [(readTarget_none hnone).1]
      exact hoff
    exact ⟨_, hforgotten.trans hread⟩
  · refine ⟨[call], ?_⟩
    have hnote : r.memory.note now call =
        match returned (parseTarget response) (parseTarget_returns response) with
        | .error _ => { r.memory with lastPoll := some now }
        | .ok _ => ⟨some now, true, true⟩ := if_neg hnone
    rcases readTarget_named (r := r₁) hnone with ⟨error, hp, hstate⟩ | ⟨target, card, hp, hstate⟩
    · rw [hstate]
      refine ⟨rfl, ?_⟩
      rw [List.foldl_cons, List.foldl_nil, hnote, hp]
      rfl
    · rw [hstate]
      refine ⟨rfl, ?_⟩
      rw [List.foldl_cons, List.foldl_nil, hnote, hp]
      rfl

theorem pollDevice_remembers (r : Pn532UartReader (RecordedDevice δ)) (now : ℕ) :
    ∃ cs, r.Remembers now (r.pollDevice now).2 cs := by
  obtain ⟨cs, hon⟩ := setRfField_remembers now r true
  rcases pollDevice_cases r now with ⟨error, r₁, hrf, h⟩ | ⟨r₁, inner, hrf, h⟩
  · rw [h]
    rw [hrf] at hon
    exact ⟨cs, hon⟩
  rw [hrf] at hon
  rcases h with ⟨error, readerError, h⟩ | ⟨response, h⟩
  · rw [h]
    have hfailed : r₁.Remembers now ({ r₁ with lastPoll := some now }.noted inner
        (.dynamic .inListOneIsoATarget (.error error)))
        [.dynamic .inListOneIsoATarget (.error error)] := ⟨rfl, rfl⟩
    exact ⟨_, hon.trans hfailed⟩
  · rw [h]
    obtain ⟨ds, hread⟩ := listing_remembers now r₁ inner response
    exact ⟨_, hon.trans hread⟩

theorem pollCard_remembers (r : Pn532UartReader (RecordedDevice δ)) :
    ∃ cs, r.Remembers (Pn532Device.now r.pn532).1 r.pollCard.2 cs := by
  unfold pollCard
  dsimp only [Pn532Device.now]
  split
  · exact ⟨[], (List.append_nil _).symm, rfl⟩
  · exact pollDevice_remembers
      { r with pn532 := { r.pn532 with inner := (Pn532Device.now r.pn532.inner).2 } }
      (Pn532Device.now r.pn532.inner).1

theorem exchangeTarget_state (r : Pn532UartReader (RecordedDevice δ)) :
    r.exchangeTarget.2 = if r.activeTarget = none then r.pollCard.2 else r := by
  unfold exchangeTarget
  cases hactive : r.activeTarget with
  | some target => simp
  | none =>
    obtain ⟨result, r₁⟩ := r.pollCard
    cases result with
    | error error => rfl
    | ok found =>
      cases found with
      | none => rfl
      | some card => rfl

theorem exchangeTarget_remembers (r : Pn532UartReader (RecordedDevice δ)) :
    ∃ cs, r.Remembers (Pn532Device.now r.pn532).1 r.exchangeTarget.2 cs := by
  rw [exchangeTarget_state]
  split
  · exact r.pollCard_remembers
  · exact ⟨[], .refl _ r⟩

theorem exchangeApdu_remembers (r : Pn532UartReader (RecordedDevice δ)) (apdu : List UInt8) :
    ∃ cs, r.Remembers (Pn532Device.now r.pn532).1 (r.exchangeApdu apdu).2 cs := by
  by_cases hfit : apdu.length + 1 > pn532BufferSize - 9
  · have h : (r.exchangeApdu apdu).2 = r := by simp [exchangeApdu, hfit]
    rw [h]
    exact ⟨[], .refl _ r⟩
  obtain ⟨cs, htarget⟩ := r.exchangeTarget_remembers
  obtain ⟨found, r₁, hx⟩ : ∃ found r₁, r.exchangeTarget = (found, r₁) := ⟨_, _, rfl⟩
  rw [hx] at htarget
  cases found with
  | error error =>
    have h : (r.exchangeApdu apdu).2 = r₁ := by simp [exchangeApdu, hfit, hx]
    rw [h]
    exact ⟨cs, htarget⟩
  | ok target =>
    obtain ⟨inner, answer, ⟨hends, h⟩ | ⟨hends, h⟩⟩ := exchangeApdu_cases hfit hx
    · have hkept : r₁.Remembers (Pn532Device.now r.pn532).1
          (r₁.noted inner (.dynamic (.inDataExchange (target :: apdu)) answer))
          [.dynamic (.inDataExchange (target :: apdu)) answer] := by
        refine ⟨rfl, ?_⟩
        simp only [List.foldl_cons, List.foldl_nil, Memory.note, hends]
        rfl
      rw [h]
      exact ⟨_, htarget.trans hkept⟩
    · let r₂ : Pn532UartReader (RecordedDevice δ) :=
        { r₁.noted inner (.dynamic (.inDataExchange (target :: apdu)) answer) with
          activeTarget := none, cachedCard := none, lastPoll := none }
      have hforgotten : r₁.Remembers (Pn532Device.now r.pn532).1 r₂
          [.dynamic (.inDataExchange (target :: apdu)) answer] := by
        refine ⟨rfl, ?_⟩
        simp only [List.foldl_cons, List.foldl_nil, Memory.note, hends, if_true]
        rfl
      obtain ⟨ds, hoff⟩ := setRfField_remembers (Pn532Device.now r.pn532).1 r₂ false
      rw [h]
      exact ⟨_, (htarget.trans hforgotten).trans hoff⟩

end Pn532UartReader

variable [Pn532Device δ]

/-- What an operation at the time of its clock reading leaves of the memory, by its commands. -/
def Memory.operation (m : Memory) (e : ReaderStep δ) : Memory :=
  e.output.1.foldl (Memory.note (Pn532Device.now e.before.pn532).1) (m.begin e.input)

def memoryAfter (h : List (ReaderStep δ)) : Memory := h.foldl Memory.operation .start

theorem operation_remembers (r : Pn532UartReader (RecordedDevice δ)) (op : ReaderOp) :
    let e := (readerMachine δ).event r op
    e.after.memory = r.memory.operation e := by
  have hshown : ∀ {now : ℕ} {r₀ r' : Pn532UartReader (RecordedDevice δ)} {cs : List DeviceCall},
      r₀.pn532.calls = [] → r₀.Remembers now r' cs →
        r'.memory = r'.pn532.calls.foldl (Memory.note now) r₀.memory := by
    intro now r₀ r' cs hnone h
    rw [h.1, hnone, List.nil_append]
    exact h.2
  cases op with
  | pollCard =>
    obtain ⟨cs, h⟩ := r.silent.pollCard_remembers
    have hsilent : r.silent.pn532.calls = [] := rfl
    have hmemory := hshown hsilent h
    exact hmemory
  | powerOff =>
    obtain ⟨cs, h⟩ := Pn532UartReader.setRfField_remembers (Pn532Device.now r.pn532).1
      { r.silent with activeTarget := none } false
    exact hshown rfl h
  | exchangeApdu apdu =>
    obtain ⟨cs, h⟩ := r.silent.exchangeApdu_remembers apdu
    have hsilent : r.silent.pn532.calls = [] := rfl
    have hmemory := hshown hsilent h
    exact hmemory

/-- Behind a run the reader remembers what the times and the outcomes of its commands leave. -/
theorem run_memory {device : δ} {h : List (ReaderStep δ)}
    {r : Pn532UartReader (RecordedDevice δ)}
    (hr : Run (readerMachine δ) (.opened ⟨device, []⟩) h r) : r.memory = memoryAfter h := by
  refine hr.invariant (A := fun _ => True) (P := fun h r => r.memory = memoryAfter h) rfl ?_
    fun _ _ => trivial
  intro h r op hmemory _
  rw [operation_remembers, hmemory, memoryAfter, memoryAfter, List.foldl_append]
  rfl

end VirtualCcid.Nfc
