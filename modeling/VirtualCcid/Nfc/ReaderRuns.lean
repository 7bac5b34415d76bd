import VirtualCcid.Nfc.Recorded

/-! Runs of the PN532 reader: what each operation does to the device and to the reader's copy of
its state, and to which target and with which field its exchanges are sent. -/
namespace VirtualCcid.Nfc
open Rust Ccid Runs

inductive ReaderOp where
  | pollCard
  | powerOff
  | exchangeApdu (apdu : List UInt8)
  deriving DecidableEq, Repr

inductive ReaderResult where
  | card (result : Except ReaderError (Option CardPresence))
  | off (result : Except ReaderError Unit)
  | response (result : Except ReaderError (List UInt8))

variable {δ : Type*}

/-- The reader with no commands noted. -/
def Pn532UartReader.silent (r : Pn532UartReader (RecordedDevice δ)) :
    Pn532UartReader (RecordedDevice δ) :=
  { r with pn532 := { r.pn532 with calls := [] } }

abbrev ReaderStep (δ : Type*) :=
  Event (Pn532UartReader (RecordedDevice δ)) ReaderOp (List DeviceCall × ReaderResult)

/-- The reader, with the commands of each operation beside its result. -/
def readerMachine (δ : Type*) [Pn532Device δ] :
    Machine (Pn532UartReader (RecordedDevice δ)) ReaderOp (List DeviceCall × ReaderResult) where
  step r
    | .pollCard => let s := r.silent.pollCard; ((s.2.pn532.calls, .card s.1), s.2)
    | .powerOff => let s := r.silent.powerOff; ((s.2.pn532.calls, .off s.1), s.2)
    | .exchangeApdu apdu =>
      let s := r.silent.exchangeApdu apdu
      ((s.2.pn532.calls, .response s.1), s.2)

inductive ReaderEvent where
  | started (op : ReaderOp)
  | call (call : DeviceCall)

def readerEvents (e : ReaderStep δ) : List ReaderEvent :=
  .started e.input :: e.output.1.map .call

namespace ReaderEvent

/-- The target that an answer to `InListPassiveTarget` names. -/
def names : ReaderEvent → Option UInt8
  | .call (.dynamic .inListOneIsoATarget (.ok response)) =>
    if response = [] ∨ response.head? = some 0 then none
    else
      match returned (parseTarget response) (parseTarget_returns response) with
      | .error _ => none
      | .ok (target, _) => some target
  | _ => none

/-- `power_off`, an answer that there is no target, or the status of an exchange upon which the
target is deactivated. -/
def ends : ReaderEvent → Bool
  | .started .powerOff => true
  | .call (.dynamic .inListOneIsoATarget (.ok response)) => response = [] ∨ response.head? = some 0
  | .call (.dynamic (.inDataExchange _) (.ok (status :: _))) =>
    !exchangeStatusKeepsTargetActive status
  | _ => false

/-- Whether the device has acknowledged a switch of the RF field, and to what. -/
def switches : ReaderEvent → Option Bool
  | .call (.process (.rfConfiguration data) (.ok ())) => some (data = rfFieldOn)
  | _ => none

end ReaderEvent

/-- The target and the field that the events so far leave selected. -/
structure Selection where
  target : Option UInt8
  field : Option Bool

/-- An exchange is sent with the field on, to the target selected. -/
def selectionMonitor : Monitor ReaderEvent Selection where
  start := ⟨none, none⟩
  next s e :=
    ⟨latched ReaderEvent.names ReaderEvent.ends s.target e,
      latched ReaderEvent.switches (fun _ => false) s.field e⟩
  permits
    | s, .call (.dynamic (.inDataExchange data) _) =>
      s.field = some true ∧ ∃ target, s.target = some target ∧ data.head? = some target
    | _, _ => True

/-- `target` was named by the device, and neither given up nor superseded since. -/
def Selected (events : List ReaderEvent) (target : UInt8) : Prop :=
  Held ReaderEvent.names ReaderEvent.ends events target

/-- The device last acknowledged that the field is on. -/
def FieldOn (events : List ReaderEvent) : Prop :=
  Held ReaderEvent.switches (fun _ => false) events true

theorem selectionMonitor_after (s : Selection) (events : List ReaderEvent) :
    selectionMonitor.after s events =
      ⟨events.foldl (latched ReaderEvent.names ReaderEvent.ends) s.target,
        events.foldl (latched ReaderEvent.switches fun _ => false) s.field⟩ := by
  induction events generalizing s with
  | nil => rfl
  | cons e events ih => exact ih _

theorem selected_iff (events : List ReaderEvent) (target : UInt8) :
    Selected events target ↔
      (selectionMonitor.after selectionMonitor.start events).target = some target := by
  rw [selectionMonitor_after]
  exact latched_eq_some_iff.symm

theorem fieldOn_iff (events : List ReaderEvent) :
    FieldOn events ↔ (selectionMonitor.after selectionMonitor.start events).field = some true := by
  rw [selectionMonitor_after]
  exact latched_eq_some_iff.symm

theorem next_switched (s : Selection) (enabled : Bool) :
    selectionMonitor.next s (.call (.process
      (.rfConfiguration (if enabled then rfFieldOn else rfFieldOff)) (.ok ()))) =
        ⟨s.target, some enabled⟩ := by
  cases enabled <;> rfl

theorem next_unanswered (s : Selection) (request : Request) (error : Pn532Error) :
    selectionMonitor.next s (.call (.process request (.error error))) = s := by
  cases request <;> rfl

theorem next_unlisted (s : Selection) (request : Request) (error : Pn532Error) :
    selectionMonitor.next s (.call (.dynamic request (.error error))) = s := by
  cases request <;> rfl

theorem next_listed_none (s : Selection) {response : List UInt8}
    (h : response = [] ∨ response.head? = some 0) :
    selectionMonitor.next s (.call (.dynamic .inListOneIsoATarget (.ok response))) =
      ⟨none, s.field⟩ := by
  simp [selectionMonitor, latched, ReaderEvent.names, ReaderEvent.ends, ReaderEvent.switches, h]

theorem next_listed (s : Selection) {response : List UInt8}
    (h : ¬ (response = [] ∨ response.head? = some 0)) :
    selectionMonitor.next s (.call (.dynamic .inListOneIsoATarget (.ok response))) =
      match returned (parseTarget response) (parseTarget_returns response) with
      | .error _ => s
      | .ok (target, _) => ⟨some target, s.field⟩ := by
  simp only [selectionMonitor, latched, ReaderEvent.names, ReaderEvent.ends,
    ReaderEvent.switches, h, if_false, decide_false]
  split <;> rfl

theorem next_exchanged (s : Selection) (data : List UInt8) (answer : Except Pn532Error (List UInt8)) :
    selectionMonitor.next s (.call (.dynamic (.inDataExchange data) answer)) =
      ⟨if ReaderEvent.ends (.call (.dynamic (.inDataExchange data) answer)) then none else s.target,
        s.field⟩ := rfl

namespace Pn532UartReader

/-- An active target has the field on, and its card cached. -/
def Consistent (r : Pn532UartReader δ) : Prop :=
  r.activeTarget.isSome = true → r.rfFieldEnabled = true ∧ r.cachedCard.isSome = true

/-- The reader's copy is what the events leave selected. -/
def Mirrors (r : Pn532UartReader δ) (s : Selection) : Prop :=
  s.target = r.activeTarget ∧ (s.field = some true ↔ r.rfFieldEnabled = true)

/-- `r` comes to be `r'` by the commands `cs`, each of them permitted. -/
structure Moves (r r' : Pn532UartReader (RecordedDevice δ)) (cs : List DeviceCall) : Prop where
  calls : r'.pn532.calls = r.pn532.calls ++ cs
  carries : selectionMonitor.Carries r.Mirrors (cs.map .call) r'.Mirrors

theorem Moves.refl (r : Pn532UartReader (RecordedDevice δ)) : r.Moves r [] :=
  ⟨by simp, .nil fun _ h => h⟩

theorem Moves.of_same {r r' : Pn532UartReader (RecordedDevice δ)}
    (hcalls : r'.pn532.calls = r.pn532.calls) (htarget : r'.activeTarget = r.activeTarget)
    (hfield : r'.rfFieldEnabled = r.rfFieldEnabled) : r.Moves r' [] := by
  refine ⟨by rw [hcalls, List.append_nil], .nil fun s hs => ?_⟩
  rw [Mirrors, htarget, hfield]
  exact hs

theorem Moves.trans {r r' r'' : Pn532UartReader (RecordedDevice δ)} {cs ds : List DeviceCall}
    (h : r.Moves r' cs) (h' : r'.Moves r'' ds) : r.Moves r'' (cs ++ ds) := by
  refine ⟨by rw [h'.calls, h.calls, List.append_assoc], ?_⟩
  rw [List.map_append]
  exact h.carries.append h'.carries

variable [Pn532Device δ]

def noted (r : Pn532UartReader (RecordedDevice δ)) (inner : δ) (call : DeviceCall) :
    Pn532UartReader (RecordedDevice δ) :=
  { r with pn532 := ⟨inner, r.pn532.calls ++ [call]⟩ }

omit [Pn532Device δ] in
theorem moves_noted {r r' : Pn532UartReader (RecordedDevice δ)} {call : DeviceCall}
    (hcalls : r'.pn532.calls = r.pn532.calls ++ [call])
    (h : ∀ s, r.Mirrors s → selectionMonitor.permits s (.call call) ∧
      r'.Mirrors (selectionMonitor.next s (.call call))) : r.Moves r' [call] :=
  ⟨hcalls, .single h⟩

theorem setRfField_ok {r r₁ : Pn532UartReader (RecordedDevice δ)} {enabled : Bool}
    (h : r.setRfField enabled = (.ok (), r₁)) :
    ∃ inner cs, r₁ = { r with
        pn532 := ⟨inner, r.pn532.calls ++ cs⟩, rfFieldEnabled := enabled } ∧ r.Moves r₁ cs := by
  unfold setRfField at h
  by_cases hrf : r.rfFieldEnabled = enabled
  · rw [if_pos hrf] at h
    obtain rfl := (Prod.mk.inj h).2
    refine ⟨r.pn532.inner, [], ?_, .refl r⟩
    rw [List.append_nil, ← hrf]
  rw [if_neg hrf] at h
  dsimp only [Pn532Device.process, Recorder.call] at h
  split at h
  · cases h
  · next heq =>
    obtain ⟨hres, rfl⟩ := Prod.mk.inj heq
    obtain rfl := (Prod.mk.inj h).2
    refine ⟨_, [_], rfl, moves_noted rfl fun s hs => ⟨trivial, ?_⟩⟩
    rw [hres, next_switched]
    exact ⟨hs.1, by simp⟩

theorem setRfField_error {r r₁ : Pn532UartReader (RecordedDevice δ)} {enabled : Bool}
    {error : ReaderError} (h : r.setRfField enabled = (.error error, r₁)) :
    r.rfFieldEnabled ≠ enabled ∧ ∃ inner call, call.isListing = false ∧
      r₁ = r.noted inner call ∧ r.Moves r₁ [call] := by
  unfold setRfField at h
  by_cases hrf : r.rfFieldEnabled = enabled
  · rw [if_pos hrf] at h
    cases h
  rw [if_neg hrf] at h
  dsimp only [Pn532Device.process, Recorder.call] at h
  split at h
  · next heq =>
    obtain ⟨hres, rfl⟩ := Prod.mk.inj heq
    obtain rfl := (Prod.mk.inj h).2
    refine ⟨hrf, _, _, rfl, rfl, moves_noted rfl fun s hs => ⟨trivial, ?_⟩⟩
    rw [hres, next_unanswered]
    exact hs
  · cases h

theorem setRfField_moves (r : Pn532UartReader (RecordedDevice δ)) (enabled : Bool) :
    ∃ pn532 rfFieldEnabled cs, (r.setRfField enabled).2 = { r with pn532, rfFieldEnabled } ∧
      r.Moves (r.setRfField enabled).2 cs := by
  obtain ⟨result, r₁, h⟩ : ∃ result r₁, r.setRfField enabled = (result, r₁) := ⟨_, _, rfl⟩
  rw [h]
  cases result with
  | ok _ =>
    obtain ⟨inner, cs, rfl, hm⟩ := setRfField_ok h
    exact ⟨_, _, cs, rfl, hm⟩
  | error error =>
    obtain ⟨-, inner, call, -, rfl, hm⟩ := setRfField_error h
    exact ⟨_, _, [call], rfl, hm⟩

theorem readTarget_none {r : Pn532UartReader (RecordedDevice δ)} {response : List UInt8}
    (h : response = [] ∨ response.head? = some 0) :
    (r.readTarget response).2 =
        ({ r with activeTarget := none, cachedCard := none }.setRfField false).2 ∧
      ∀ found, (r.readTarget response).1 = .ok found → found = none := by
  unfold readTarget
  rw [if_pos h]
  split
  · next heq => exact ⟨by rw [heq], by simp⟩
  · next heq => exact ⟨by rw [heq], by simp⟩

theorem readTarget_named {r : Pn532UartReader (RecordedDevice δ)} {response : List UInt8}
    (h : ¬ (response = [] ∨ response.head? = some 0)) :
    (∃ error, returned (parseTarget response) (parseTarget_returns response) = .error error ∧
      r.readTarget response = (.error error, r)) ∨
    ∃ target card, returned (parseTarget response) (parseTarget_returns response) =
        .ok (target, card) ∧
      r.readTarget response = (.ok (some card),
        { r with activeTarget := some target, cachedCard := some card }) := by
  unfold readTarget
  rw [if_neg h]
  cases returned (parseTarget response) (parseTarget_returns response) with
  | error error => exact Or.inl ⟨error, rfl, rfl⟩
  | ok named => exact Or.inr ⟨named.1, named.2, rfl, rfl⟩

theorem listing_moves (r : Pn532UartReader (RecordedDevice δ)) (inner : δ) (response : List UInt8) :
    ∃ cs, r.Moves ((r.noted inner (.dynamic .inListOneIsoATarget (.ok response))).readTarget
      response).2 (.dynamic .inListOneIsoATarget (.ok response) :: cs) := by
  by_cases h : response = [] ∨ response.head? = some 0
  · -- The target is forgotten before the field is switched off.
    let r₁ : Pn532UartReader (RecordedDevice δ) :=
      { r.noted inner (.dynamic .inListOneIsoATarget (.ok response)) with
        activeTarget := none, cachedCard := none }
    have hr₁ : r.Moves r₁ [.dynamic .inListOneIsoATarget (.ok response)] := by
      refine moves_noted rfl fun s hs => ⟨trivial, ?_⟩
      rw [next_listed_none s h]
      exact ⟨rfl, hs.2⟩
    obtain ⟨pn532, rf, cs, -, hm⟩ := setRfField_moves r₁ false
    refine ⟨cs, ?_⟩
    rw [(readTarget_none h).1]
    exact hr₁.trans hm
  · refine ⟨[], moves_noted ?_ fun s hs => ⟨trivial, ?_⟩⟩
    · rcases readTarget_named (r := r.noted inner _) h with ⟨_, -, hr⟩ | ⟨_, _, -, hr⟩
      · rw [hr]
        rfl
      · rw [hr]
        rfl
    · rw [next_listed s h]
      rcases readTarget_named (r := r.noted inner _) h with ⟨_, hp, hr⟩ | ⟨_, _, hp, hr⟩
      · rw [hp, hr]
        exact hs
      · rw [hp, hr]
        exact ⟨rfl, hs.2⟩

/-- A poll past the cache stops at the field, stops at the listing, or reads its answer. -/
theorem pollDevice_cases (r : Pn532UartReader (RecordedDevice δ)) (now : ℕ) :
    (∃ error r₁, r.setRfField true = (.error error, r₁) ∧ r.pollDevice now = (.error error, r₁)) ∨
    ∃ r₁ inner, r.setRfField true = (.ok (), r₁) ∧
      ((∃ error readerError, r.pollDevice now = (.error readerError,
          { r₁ with lastPoll := some now }.noted inner
            (.dynamic .inListOneIsoATarget (.error error)))) ∨
        ∃ response, r.pollDevice now =
          ({ r₁ with lastPoll := some now }.noted inner
            (.dynamic .inListOneIsoATarget (.ok response))).readTarget response) := by
  obtain ⟨result, r₁, h⟩ : ∃ result r₁, r.setRfField true = (result, r₁) := ⟨_, _, rfl⟩
  unfold pollDevice
  rw [h]
  cases result with
  | error error => exact Or.inl ⟨error, r₁, rfl, rfl⟩
  | ok _ =>
    dsimp only [Pn532Device.processDynamicResponse, Recorder.call]
    generalize Pn532Device.processDynamicResponse r₁.pn532.inner _ pn532PollTimeoutMs = answer
    obtain ⟨error | response, inner⟩ := answer
    · exact Or.inr ⟨r₁, inner, rfl, Or.inl ⟨error, _, rfl⟩⟩
    · exact Or.inr ⟨r₁, inner, rfl, Or.inr ⟨response, rfl⟩⟩

theorem pollDevice_moves (r : Pn532UartReader (RecordedDevice δ)) (now : ℕ) :
    ∃ cs, r.Moves (r.pollDevice now).2 cs := by
  rcases pollDevice_cases r now with ⟨error, r₁, hrf, h⟩ | ⟨r₁, inner, hrf, h⟩
  · obtain ⟨-, _, call, -, -, hm⟩ := setRfField_error hrf
    rw [h]
    exact ⟨[call], hm⟩
  obtain ⟨_, cs, -, hm⟩ := setRfField_ok hrf
  have hpoll : r.Moves { r₁ with lastPoll := some now } cs := ⟨hm.calls, hm.carries⟩
  rcases h with ⟨error, readerError, h⟩ | ⟨response, h⟩
  · rw [h]
    refine ⟨_, hpoll.trans (moves_noted rfl fun s hs => ⟨trivial, ?_⟩)⟩
    rw [next_unlisted]
    exact hs
  · obtain ⟨ds, hm'⟩ := listing_moves { r₁ with lastPoll := some now } inner response
    rw [h]
    exact ⟨_, hpoll.trans hm'⟩

theorem pollCard_moves (r : Pn532UartReader (RecordedDevice δ)) :
    ∃ cs, r.Moves r.pollCard.2 cs := by
  unfold pollCard
  dsimp only [Pn532Device.now]
  split
  · exact ⟨[], .of_same rfl rfl rfl⟩
  · obtain ⟨cs, hm⟩ := pollDevice_moves
      { r with pn532 := { r.pn532 with inner := (Pn532Device.now r.pn532.inner).2 } }
      (Pn532Device.now r.pn532.inner).1
    exact ⟨cs, hm.calls, hm.carries⟩

omit [Pn532Device δ] in
theorem consistent_of_none {r : Pn532UartReader δ} (h : r.activeTarget = none) : r.Consistent := by
  intro hsome
  rw [h] at hsome
  cases hsome

theorem setRfField_activeTarget (r : Pn532UartReader (RecordedDevice δ)) (enabled : Bool) :
    (r.setRfField enabled).2.activeTarget = r.activeTarget := by
  obtain ⟨pn532, rf, cs, h, -⟩ := setRfField_moves r enabled
  rw [h]

theorem readTarget_consistent {r : Pn532UartReader (RecordedDevice δ)} (hrf : r.rfFieldEnabled = true)
    (hr : r.Consistent) (response : List UInt8) :
    (r.readTarget response).2.Consistent ∧
      ∀ card, (r.readTarget response).1 = .ok (some card) →
        (r.readTarget response).2.activeTarget.isSome = true := by
  by_cases h : response = [] ∨ response.head? = some 0
  · obtain ⟨hstate, hresult⟩ := readTarget_none (r := r) h
    refine ⟨consistent_of_none ?_, fun card hcard => ?_⟩
    · rw [hstate, setRfField_activeTarget]
    · cases hresult _ hcard
  · rcases readTarget_named (r := r) h with ⟨error, -, heq⟩ | ⟨target, card, -, heq⟩
    · rw [heq]
      exact ⟨hr, fun card hcard => by cases hcard⟩
    · rw [heq]
      exact ⟨fun _ => ⟨hrf, rfl⟩, fun _ _ => rfl⟩

theorem pollDevice_consistent {r : Pn532UartReader (RecordedDevice δ)} (hr : r.Consistent)
    (now : ℕ) : (r.pollDevice now).2.Consistent ∧
      ∀ card, (r.pollDevice now).1 = .ok (some card) →
        (r.pollDevice now).2.activeTarget.isSome = true := by
  rcases pollDevice_cases r now with ⟨error, r₁, hrf, h⟩ | ⟨r₁, inner, hrf, h⟩
  · obtain ⟨-, _, call, -, rfl, -⟩ := setRfField_error hrf
    rw [h]
    exact ⟨hr, fun card hcard => by cases hcard⟩
  obtain ⟨inner', cs, hr₁, -⟩ := setRfField_ok hrf
  have hcons : Consistent { r₁ with lastPoll := some now } := by
    intro hsome
    rw [hr₁] at hsome ⊢
    exact ⟨rfl, (hr hsome).2⟩
  rcases h with ⟨error, readerError, h⟩ | ⟨response, h⟩
  · rw [h]
    exact ⟨hcons, fun card hcard => by cases hcard⟩
  · rw [h]
    have hfield : r₁.rfFieldEnabled = true := by rw [hr₁]
    exact readTarget_consistent (r := noted { r₁ with lastPoll := some now } inner _) hfield hcons
      response

theorem pollCard_consistent {r : Pn532UartReader (RecordedDevice δ)} (hr : r.Consistent) :
    r.pollCard.2.Consistent ∧
      ∀ card, r.pollCard.1 = .ok (some card) → r.pollCard.2.activeTarget.isSome = true := by
  unfold pollCard
  dsimp only [Pn532Device.now]
  split
  · next hcache =>
    refine ⟨hr, fun card hcard => ?_⟩
    have hcached : r.cachedCard = some card := Except.ok.inj hcard
    simpa [canReturnCachedPresence, hcached] using (Bool.and_eq_true_iff.mp hcache).2
  · exact pollDevice_consistent
      (r := { r with pn532 := { r.pn532 with inner := (Pn532Device.now r.pn532.inner).2 } }) hr _

theorem powerOff_moves (r : Pn532UartReader (RecordedDevice δ)) :
    ∃ cs, Moves { r with activeTarget := none } r.powerOff.2 cs ∧ r.powerOff.2.Consistent := by
  obtain ⟨pn532, rf, cs, -, hm⟩ := setRfField_moves { r with activeTarget := none } false
  exact ⟨cs, hm, consistent_of_none (setRfField_activeTarget _ _)⟩

/-- The target of an exchange is the reader's active one; the fallback slot is never taken. -/
theorem exchangeTarget_active {r : Pn532UartReader (RecordedDevice δ)} (hr : r.Consistent) :
    (∃ cs, r.Moves r.exchangeTarget.2 cs) ∧ r.exchangeTarget.2.Consistent ∧
      ∀ target, r.exchangeTarget.1 = .ok target →
        r.exchangeTarget.2.activeTarget = some target := by
  cases hactive : r.activeTarget with
  | some target =>
    have h : r.exchangeTarget = (.ok target, r) := by simp [exchangeTarget, hactive]
    rw [h]
    refine ⟨⟨[], .refl r⟩, hr, fun found hfound => ?_⟩
    rw [hactive, Except.ok.inj hfound]
  | none =>
    obtain ⟨cs, hm⟩ := pollCard_moves r
    obtain ⟨hcons, hcard⟩ := pollCard_consistent hr
    obtain ⟨result, r₁, hpoll⟩ : ∃ result r₁, r.pollCard = (result, r₁) := ⟨_, _, rfl⟩
    rw [hpoll] at hm hcons hcard
    match result with
    | .error error =>
      have h : r.exchangeTarget = (.error error, r₁) := by simp [exchangeTarget, hactive, hpoll]
      rw [h]
      exact ⟨⟨cs, hm⟩, hcons, fun _ hfound => by cases hfound⟩
    | .ok none =>
      have h : r.exchangeTarget = (.error (.targetLost
          "cannot exchange APDU because no NFC target is present"), r₁) := by
        simp [exchangeTarget, hactive, hpoll]
      rw [h]
      exact ⟨⟨cs, hm⟩, hcons, fun _ hfound => by cases hfound⟩
    | .ok (some card) =>
      have h : r.exchangeTarget = (.ok (r₁.activeTarget.getD isoATargetSlot), r₁) := by
        simp [exchangeTarget, hactive, hpoll]
      rw [h]
      refine ⟨⟨cs, hm⟩, hcons, fun found hfound => ?_⟩
      obtain ⟨target, htarget⟩ := Option.isSome_iff_exists.mp (hcard card rfl)
      rw [← Except.ok.inj hfound, htarget, Option.getD_some]

omit [Pn532Device δ] in
theorem permits_exchange {r : Pn532UartReader δ} (hr : r.Consistent) {target : UInt8}
    (htarget : r.activeTarget = some target) {s : Selection} (hs : r.Mirrors s) (apdu : List UInt8)
    (result : Except Pn532Error (List UInt8)) :
    selectionMonitor.permits s (.call (.dynamic (.inDataExchange (target :: apdu)) result)) := by
  have hfield := (hr (by rw [htarget]; rfl)).1
  exact ⟨hs.2.mpr hfield, target, hs.1.trans htarget, rfl⟩

/-- Once its target is found an exchange sends one command, and deactivates the target if the
answer ends the activation. -/
theorem exchangeApdu_cases {r r₁ : Pn532UartReader (RecordedDevice δ)} {apdu : List UInt8}
    {target : UInt8} (hfit : ¬ apdu.length + 1 > pn532BufferSize - 9)
    (hx : r.exchangeTarget = (.ok target, r₁)) :
    ∃ inner answer,
      let call := .dynamic (.inDataExchange (target :: apdu)) answer
      (ReaderEvent.ends (.call call) = false ∧ (r.exchangeApdu apdu).2 = r₁.noted inner call) ∨
      ReaderEvent.ends (.call call) = true ∧
        (r.exchangeApdu apdu).2 = (r₁.noted inner call).deactivateTarget.2 := by
  unfold exchangeApdu
  rw [if_neg hfit, hx]
  dsimp only [Pn532Device.processDynamicResponse, Recorder.call]
  generalize Pn532Device.processDynamicResponse r₁.pn532.inner
    (.inDataExchange (target :: apdu)) pn532ApduTimeoutMs = answer
  obtain ⟨result, inner⟩ := answer
  refine ⟨inner, result, ?_⟩
  match result with
  | .error error => exact Or.inl ⟨rfl, rfl⟩
  | .ok [] => exact Or.inl ⟨rfl, rfl⟩
  | .ok (status :: response) =>
    cases hkeeps : !exchangeStatusKeepsTargetActive status with
    | false => exact Or.inl ⟨hkeeps, by simp only [hkeeps]; rfl⟩
    | true => exact Or.inr ⟨hkeeps, by simp only [hkeeps]; rfl⟩

theorem exchangeApdu_moves {r : Pn532UartReader (RecordedDevice δ)} (hr : r.Consistent)
    (apdu : List UInt8) :
    (∃ cs, r.Moves (r.exchangeApdu apdu).2 cs) ∧ (r.exchangeApdu apdu).2.Consistent := by
  by_cases hfit : apdu.length + 1 > pn532BufferSize - 9
  · have h : (r.exchangeApdu apdu).2 = r := by simp [exchangeApdu, hfit]
    rw [h]
    exact ⟨⟨[], .refl r⟩, hr⟩
  obtain ⟨⟨cs, hm⟩, hcons, hactive⟩ := exchangeTarget_active hr
  obtain ⟨found, r₁, hx⟩ : ∃ found r₁, r.exchangeTarget = (found, r₁) := ⟨_, _, rfl⟩
  rw [hx] at hm hcons hactive
  cases found with
  | error error =>
    have h : (r.exchangeApdu apdu).2 = r₁ := by simp [exchangeApdu, hfit, hx]
    rw [h]
    exact ⟨⟨cs, hm⟩, hcons⟩
  | ok target =>
    have htarget := hactive target rfl
    obtain ⟨inner, answer, ⟨hends, h⟩ | ⟨hends, h⟩⟩ := exchangeApdu_cases hfit hx
    · rw [h]
      refine ⟨⟨_, hm.trans (moves_noted rfl fun s hs => ?_)⟩, hcons⟩
      refine ⟨permits_exchange hcons htarget hs apdu answer, ?_⟩
      rw [next_exchanged, hends]
      exact hs
    · -- The command gives the target up, then the field is switched off.
      let r₂ : Pn532UartReader (RecordedDevice δ) :=
        { r₁.noted inner (.dynamic (.inDataExchange (target :: apdu)) answer) with
          activeTarget := none, cachedCard := none, lastPoll := none }
      have hm₂ : r₁.Moves r₂ [.dynamic (.inDataExchange (target :: apdu)) answer] := by
        refine moves_noted rfl fun s hs => ?_
        refine ⟨permits_exchange hcons htarget hs apdu answer, ?_⟩
        rw [next_exchanged, hends]
        exact ⟨rfl, hs.2⟩
      obtain ⟨pn532, rf, ds, -, hm₃⟩ := setRfField_moves r₂ false
      rw [h]
      refine ⟨⟨_, (hm.trans hm₂).trans hm₃⟩, consistent_of_none ?_⟩
      exact setRfField_activeTarget r₂ false

end Pn532UartReader

theorem carries_operation {r r₀ r' : Pn532UartReader (RecordedDevice δ)} {cs : List DeviceCall}
    (op : ReaderOp) (hm : r₀.Moves r' cs) (hcalls : r₀.pn532.calls = [])
    (hstart : ∀ s, r.Mirrors s → r₀.Mirrors (selectionMonitor.next s (.started op))) :
    selectionMonitor.Carries r.Mirrors (.started op :: r'.pn532.calls.map .call) r'.Mirrors := by
  have hshown : r'.pn532.calls = cs := by rw [hm.calls, hcalls, List.nil_append]
  have hfirst : selectionMonitor.Carries r.Mirrors [.started op] r₀.Mirrors :=
    .single fun s hs => ⟨trivial, hstart s hs⟩
  rw [hshown]
  exact hfirst.append hm.carries

/-- Every operation keeps the reader consistent, and the events it shows carry what it mirrors. -/
theorem step_sound [Pn532Device δ] {r : Pn532UartReader (RecordedDevice δ)} (hr : r.Consistent)
    (op : ReaderOp) :
    let e := (readerMachine δ).event r op
    e.after.Consistent ∧ selectionMonitor.Carries r.Mirrors (readerEvents e) e.after.Mirrors := by
  have hsilent : r.silent.Consistent := hr
  cases op with
  | pollCard =>
    obtain ⟨cs, hm⟩ := r.silent.pollCard_moves
    exact ⟨(Pn532UartReader.pollCard_consistent hsilent).1,
      carries_operation .pollCard hm rfl fun s hs => hs⟩
  | powerOff =>
    obtain ⟨cs, hm, hcons⟩ := r.silent.powerOff_moves
    exact ⟨hcons, carries_operation .powerOff hm rfl fun s hs => ⟨rfl, hs.2⟩⟩
  | exchangeApdu apdu =>
    obtain ⟨⟨cs, hm⟩, hcons⟩ := Pn532UartReader.exchangeApdu_moves hsilent apdu
    exact ⟨hcons, carries_operation (.exchangeApdu apdu) hm rfl fun s hs => hs⟩

theorem run_sound [Pn532Device δ] {device : δ} {h : List (ReaderStep δ)}
    {r : Pn532UartReader (RecordedDevice δ)}
    (hr : Run (readerMachine δ) (.opened ⟨device, []⟩) h r) :
    selectionMonitor.Accepts selectionMonitor.start (h.flatMap readerEvents) ∧ r.Consistent := by
  have hstart : (Pn532UartReader.opened (⟨device, []⟩ : RecordedDevice δ)).Consistent :=
    Pn532UartReader.consistent_of_none rfl
  have hacc := hr.accepted (A := fun _ => True) selectionMonitor readerEvents
    (fun r s => r.Consistent ∧ r.Mirrors s) ⟨hstart, rfl, by simp [Pn532UartReader.opened,
      selectionMonitor]⟩ ?_ fun _ _ => trivial
  · exact ⟨hacc.1, hacc.2.1⟩
  · intro r op s ⟨hcons, hs⟩ _
    obtain ⟨hcons', hcarries⟩ := step_sound hcons op
    obtain ⟨haccepts, hs'⟩ := hcarries s hs
    exact ⟨haccepts, hcons', hs'⟩

/-- From the state `open` builds, an active target has the field on and its card cached; a card
reported has its target active; an exchange takes the active target and never the fallback slot;
and it is sent with the field on, to a target that was named by the device and not given up. -/
theorem reader_state_consistent [Pn532Device δ] (device : δ) {h : List (ReaderStep δ)}
    {r : Pn532UartReader (RecordedDevice δ)}
    (hr : Run (readerMachine δ) (.opened ⟨device, []⟩) h r) :
    (r.activeTarget.isSome = true → r.rfFieldEnabled = true ∧ r.cachedCard.isSome = true) ∧
    (∀ card r₁, r.pollCard = (.ok (some card), r₁) → r₁.activeTarget.isSome = true) ∧
    (∀ target r₁, r.exchangeTarget = (.ok target, r₁) →
      r₁.activeTarget = some target ∧ r₁.rfFieldEnabled = true) ∧
    ∀ pre data result post,
      h.flatMap readerEvents = pre ++ .call (.dynamic (.inDataExchange data) result) :: post →
        FieldOn pre ∧ ∃ target, Selected pre target ∧ data.head? = some target := by
  obtain ⟨hacc, hcons⟩ := run_sound hr
  refine ⟨hcons, ?_, ?_, ?_⟩
  · intro card r₁ hpoll
    have hactive := (Pn532UartReader.pollCard_consistent hcons).2 card
    rw [hpoll] at hactive
    exact hactive rfl
  · intro target r₁ hx
    obtain ⟨-, hcons₁, hactive⟩ := Pn532UartReader.exchangeTarget_active hcons
    rw [hx] at hcons₁ hactive
    have htarget := hactive target rfl
    exact ⟨htarget, (hcons₁ (by rw [htarget]; rfl)).1⟩
  · intro pre data result post hs
    obtain ⟨hfield, target, htarget, hhead⟩ := selectionMonitor.permits_of_accepts hacc hs
    exact ⟨(fieldOn_iff pre).mpr hfield, target, (selected_iff pre target).mpr htarget, hhead⟩

/-- A card is listed, and two APDUs are exchanged with it; the second one fails. -/
def listedCard : ScriptedDevice where
  processResults := []
  answers := [.ok [1, 1, 0x00, 0x04, 0x20, 1, 0xaa], .ok [0x00, 0x90, 0x00], .ok [0x01]]

theorem reader_state_consistent_of_listed :
    let ops : List ReaderOp := [.pollCard, .exchangeApdu [0x00], .exchangeApdu [0x00]]
    let events := ((readerMachine ScriptedDevice).history (.opened ⟨listedCard, []⟩) ops).flatMap
      readerEvents
    FieldOn (events.take 6) ∧
      ∃ target, Selected (events.take 6) target ∧ [1, 0x00].head? = some target := by
  intro ops events
  have hsplit : events = events.take 6 ++
      .call (.dynamic (.inDataExchange [1, 0x00]) (.ok [0x01])) :: events.drop 7 := rfl
  exact (reader_state_consistent listedCard (Machine.run_of_inputs _ _ ops)).2.2.2 _ _ _ _ hsplit

end VirtualCcid.Nfc
