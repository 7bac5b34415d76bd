import VirtualCcid.Runs.Simulation
import VirtualCcid.Nfc.Backend

/-! How often the PN532 is asked for a target: not more than once in a second, and not more than
once in two of them while there is no card, however often the reader is polled. Only a card that
has been powered off is looked for at once. -/
namespace VirtualCcid.Nfc
open Rust Ccid Runs

inductive ClockedCall where
  | read (now : ℕ)
  | call (call : DeviceCall)

/-- A device that notes the readings of its clock beside its commands. -/
abbrev ClockedDevice (δ : Type*) := Recorder δ ClockedCall

variable {δ : Type*} [Pn532Device δ]

instance : Pn532Device (ClockedDevice δ) where
  now d := d.call Pn532Device.now .read
  process d request timeoutMs :=
    d.call (fun s => Pn532Device.process s request timeoutMs) fun result =>
      .call (.process request result)
  processDynamicResponse d request timeoutMs :=
    d.call (fun s => Pn532Device.processDynamicResponse s request timeoutMs) fun result =>
      .call (.dynamic request result)

/-- Whether an answer to `InListPassiveTarget` says that there is a card, if it is a valid one. -/
def listed : Except Pn532Error (List UInt8) → Option Bool
  | .error _ => none
  | .ok response =>
    if response = [] ∨ response.head? = some 0 then some false
    else
      match returned (parseTarget response) (parseTarget_returns response) with
      | .error _ => none
      | .ok _ => some true

/-- The last reading of the clock, the one at which a target was last asked for, and whether a card
is known and selected. -/
structure Pace where
  now : Option ℕ
  last : Option ℕ
  cached : Bool
  active : Bool

namespace Pace

/-- The least time between two commands for a target. -/
def interval (s : Pace) : ℕ :=
  if s.cached then fromMillis pn532PollIntervalMs else fromMillis pn532AbsentPollIntervalMs

theorem interval_pos (s : Pace) : 0 < s.interval := by
  unfold interval
  split
  · decide
  · decide

def heard (s : Pace) (answer : Except Pn532Error (List UInt8)) : Pace :=
  match listed answer with
  | some present => { s with cached := present, active := present }
  | none => s

/-- A card is given up without its target when the field is switched off, and with it upon the
status of an exchange. -/
def next (s : Pace) : ClockedCall → Pace
  | .read now => { s with now := some now }
  | .call (.dynamic .inListOneIsoATarget answer) => { s with last := s.now }.heard answer
  | .call (.dynamic (.inDataExchange _) (.ok (status :: _))) =>
    if exchangeStatusKeepsTargetActive status then s else ⟨s.now, none, false, false⟩
  | .call (.process (.rfConfiguration data) _) =>
    if data = rfFieldOff then { s with active := false } else s
  | .call _ => s

end Pace

/-- A target is asked for when the interval is over, or for a card that is known and not selected. A
selected card is exchanged with, or given up, only where that is `asked` for. -/
def paceMonitor (asked : Bool) : Monitor ClockedCall Pace where
  start := ⟨none, none, false, false⟩
  next := Pace.next
  permits
    | s, .call (.dynamic .inListOneIsoATarget _) =>
      ∃ now, s.now = some now ∧ (s.cached = true ∧ s.active = false ∨
        ∀ last, s.last = some last → last + s.interval ≤ now)
    | s, .call (.dynamic (.inDataExchange _) _) => s.active = true ∧ asked = true
    | s, .call (.process (.rfConfiguration data) _) =>
      data = rfFieldOff → s.active = true → asked = true
    | _, _ => True

variable {asked : Bool}

def switching (enabled : Bool) (result : Except Pn532Error Unit) : ClockedCall :=
  .call (.process (.rfConfiguration (if enabled then rfFieldOn else rfFieldOff)) result)

theorem next_switching_on (s : Pace) (result : Except Pn532Error Unit) :
    (paceMonitor asked).next s (switching true result) = s := by
  show (if rfFieldOn = rfFieldOff then { s with active := false } else s) = s
  exact if_neg (by decide)

theorem next_switching_off (s : Pace) (result : Except Pn532Error Unit) :
    (paceMonitor asked).next s (switching false result) = { s with active := false } := by
  show (if rfFieldOff = rfFieldOff then { s with active := false } else s) = _
  exact if_pos rfl

/-- The switches of the field that bring it to `enabled` from `field`. -/
def Switches (field enabled : Bool) (es : List ClockedCall) : Prop :=
  es = [] ∧ field = enabled ∨ ∃ result, es = [switching enabled result]

theorem Switches.on {field : Bool} {es : List ClockedCall} (h : Switches field true es) (s : Pace) :
    (paceMonitor asked).Accepts s es ∧ (paceMonitor asked).after s es = s := by
  rcases h with ⟨rfl, -⟩ | ⟨result, rfl⟩
  · exact ⟨trivial, rfl⟩
  · have hother : rfFieldOn ≠ rfFieldOff := by decide
    exact ⟨⟨fun h => absurd h hother, trivial⟩, next_switching_on s result⟩

theorem Switches.off {field : Bool} {es : List ClockedCall} (h : Switches field false es)
    {s : Pace} (hs : s.active = true → field = true ∧ asked = true) :
    (paceMonitor asked).Accepts s es ∧
      (paceMonitor asked).after s es = { s with active := false } := by
  rcases h with ⟨rfl, hfield⟩ | ⟨result, rfl⟩
  · have hactive : s.active = false := by
      cases h : s.active with
      | false => rfl
      | true =>
        rw [(hs h).1] at hfield
        cases hfield
    refine ⟨trivial, ?_⟩
    rw [← hactive]
    rfl
  · exact ⟨⟨fun _ hactive => (hs hactive).2, trivial⟩, next_switching_off s result⟩

namespace Pn532UartReader

/-- The reader remembers when it last asked for a target, and whether a card is known and
selected; the field is on for a selected one. -/
structure Paced (r : Pn532UartReader δ) (s : Pace) : Prop where
  last : r.lastPoll = s.last
  cached : r.cachedCard.isSome = s.cached
  active : r.activeTarget.isSome = s.active
  field : s.active = true → r.rfFieldEnabled = true

/-- The reader leaves as `r'` with these calls noted, at a permitted pace from states with `P`. -/
structure Paces (asked : Bool) (r : Pn532UartReader (ClockedDevice δ)) (P : Pace → Prop)
    (es : List ClockedCall) (r' : Pn532UartReader (ClockedDevice δ)) : Prop where
  calls : r'.pn532.calls = r.pn532.calls ++ es
  carries : (paceMonitor asked).Carries P es r'.Paced

theorem setRfField_switches (r : Pn532UartReader (ClockedDevice δ)) (enabled : Bool) :
    ∃ pn532 rfFieldEnabled es, (r.setRfField enabled).2 = { r with pn532, rfFieldEnabled } ∧
      pn532.calls = r.pn532.calls ++ es ∧ Switches r.rfFieldEnabled enabled es ∧
      (rfFieldEnabled = r.rfFieldEnabled ∨ rfFieldEnabled = enabled) ∧
      ((r.setRfField enabled).1 = .ok () → rfFieldEnabled = enabled) := by
  unfold setRfField
  split
  · next hfield =>
    exact ⟨r.pn532, r.rfFieldEnabled, [], rfl, (List.append_nil _).symm, Or.inl ⟨rfl, hfield⟩,
      Or.inl rfl, fun _ => hfield⟩
  · dsimp only [Pn532Device.process, Recorder.call]
    split
    · next heq =>
      obtain ⟨-, rfl⟩ := Prod.mk.inj heq
      exact ⟨_, r.rfFieldEnabled, _, rfl, rfl, Or.inr ⟨_, rfl⟩, Or.inl rfl, fun h => by cases h⟩
    · next heq =>
      obtain ⟨-, rfl⟩ := Prod.mk.inj heq
      exact ⟨_, enabled, _, rfl, rfl, Or.inr ⟨_, rfl⟩, Or.inr rfl, fun _ => rfl⟩

theorem release_paces {r : Pn532UartReader (ClockedDevice δ)} {P : Pace → Prop}
    (hP : ∀ s, P s → (s.active = true → r.rfFieldEnabled = true ∧ asked = true) ∧
      r.Paced { s with active := false }) :
    ∃ es, Paces asked r P es (r.setRfField false).2 := by
  obtain ⟨pn532, rf, es, hstate, hcalls, hswitches, -⟩ := r.setRfField_switches false
  refine ⟨es, ?_, fun s hs => ?_⟩
  · rw [hstate]
    exact hcalls
  · obtain ⟨hfield, hpaced⟩ := hP s hs
    obtain ⟨haccepts, hafter⟩ := hswitches.off hfield
    rw [hafter, hstate]
    exact ⟨haccepts, hpaced.last, hpaced.cached, hpaced.active, fun h => by cases h⟩

theorem readTarget_paces {r : Pn532UartReader (ClockedDevice δ)} (hfield : r.rfFieldEnabled = true)
    (response : List UInt8) :
    (∃ es, Paces asked r (fun s => ∃ s₀, r.Paced s₀ ∧ s = s₀.heard (.ok response)) es
      (r.readTarget response).2) ∧
      ∀ card, (r.readTarget response).1 = .ok (some card) →
        (r.readTarget response).2.activeTarget.isSome = true := by
  unfold readTarget
  by_cases hnone : response = [] ∨ response.head? = some 0
  · have hlisted : listed (.ok response) = some false := if_pos hnone
    obtain ⟨es, hpaces⟩ := release_paces
      (r := { r with activeTarget := none, cachedCard := none })
      (P := fun s => ∃ s₀, r.Paced s₀ ∧ s = s₀.heard (.ok response)) <| by
        rintro s ⟨s₀, hs₀, rfl⟩
        simp only [Pace.heard, hlisted]
        exact ⟨fun h => (by cases h), hs₀.last, rfl, rfl, fun h => (by cases h)⟩
    rw [if_pos hnone]
    generalize setRfField { r with activeTarget := none, cachedCard := none } false = switched
      at hpaces ⊢
    obtain ⟨result, r'⟩ := switched
    cases result with
    | error error => exact ⟨⟨es, hpaces.calls, hpaces.carries⟩, fun card h => by cases h⟩
    | ok => exact ⟨⟨es, hpaces.calls, hpaces.carries⟩, fun card h => by cases h⟩
  · rw [if_neg hnone]
    cases hparsed : returned (parseTarget response) (parseTarget_returns response) with
    | error error =>
      have hlisted : listed (.ok response) = none := by
        simp only [listed, if_neg hnone, hparsed]
      refine ⟨⟨[], (List.append_nil _).symm, .nil ?_⟩, fun card h => by cases h⟩
      rintro s ⟨s₀, hs₀, rfl⟩
      simp only [Pace.heard, hlisted]
      exact hs₀
    | ok named =>
      have hlisted : listed (.ok response) = some true := by
        simp only [listed, if_neg hnone, hparsed]
      refine ⟨⟨[], (List.append_nil _).symm, .nil ?_⟩, fun card _ => rfl⟩
      rintro s ⟨s₀, hs₀, rfl⟩
      simp only [Pace.heard, hlisted]
      exact ⟨hs₀.last, rfl, rfl, fun _ => hfield⟩

/-- At `now` the reader may ask for a target. -/
def Due (r : Pn532UartReader δ) (now : ℕ) (s : Pace) : Prop :=
  r.Paced s ∧ s.now = some now ∧
    (s.cached = true ∧ s.active = false ∨ ∀ last, s.last = some last → last + s.interval ≤ now)

theorem pollDevice_paces (r : Pn532UartReader (ClockedDevice δ)) (now : ℕ) :
    (∃ es, Paces asked r (r.Due now) es (r.pollDevice now).2) ∧
      ∀ card, (r.pollDevice now).1 = .ok (some card) →
        (r.pollDevice now).2.activeTarget.isSome = true := by
  obtain ⟨pn532, rf, es, hstate, hcalls, hswitches, hrf, hon⟩ := r.setRfField_switches true
  unfold pollDevice
  generalize r.setRfField true = switched at hstate hon
  obtain ⟨result, r₁⟩ := switched
  obtain rfl : r₁ = { r with pn532, rfFieldEnabled := rf } := hstate
  have hfield : ∀ s, r.Paced s → s.active = true → rf = true := by
    intro s hs hactive
    rcases hrf with hrf | hrf
    · rw [hrf]
      exact hs.field hactive
    · exact hrf
  cases result with
  | error error =>
    refine ⟨⟨es, hcalls, fun s hs => ?_⟩, fun card h => by cases h⟩
    obtain ⟨haccepts, hafter⟩ := hswitches.on s
    rw [hafter]
    exact ⟨haccepts, hs.1.last, hs.1.cached, hs.1.active, hfield s hs.1⟩
  | ok =>
    obtain rfl := hon rfl
    dsimp only [Pn532Device.processDynamicResponse, Recorder.call]
    generalize Pn532Device.processDynamicResponse pn532.inner .inListOneIsoATarget
      pn532PollTimeoutMs = answered
    obtain ⟨answer, inner⟩ := answered
    let r₂ : Pn532UartReader (ClockedDevice δ) :=
      { r with
        pn532 := ⟨inner, pn532.calls ++ [.call (.dynamic .inListOneIsoATarget answer)]⟩
        lastPoll := some now
        rfFieldEnabled := true }
    have hnoted : r₂.pn532.calls =
        r.pn532.calls ++ (es ++ [.call (.dynamic .inListOneIsoATarget answer)]) := by
      rw [← List.append_assoc, ← hcalls]
    -- Behind the field the command is permitted, and is heard with its answer.
    have hlisting : (paceMonitor asked).Carries (r.Due now)
        (es ++ [.call (.dynamic .inListOneIsoATarget answer)])
        (fun s => ∃ s₀, r₂.Paced s₀ ∧ s = s₀.heard answer) := by
      refine Monitor.Carries.append (Q := r.Due now) (fun s hs => ?_) (.single fun s hs => ?_)
      · obtain ⟨haccepts, hafter⟩ := hswitches.on s
        rw [hafter]
        exact ⟨haccepts, hs⟩
      · obtain ⟨hpaced, hnow, hdue⟩ := hs
        exact ⟨⟨now, hnow, hdue⟩, { s with last := s.now },
          ⟨hnow.symm, hpaced.cached, hpaced.active, fun _ => rfl⟩, rfl⟩
    cases answer with
    | error error =>
      refine ⟨⟨_, hnoted, fun s hs => ?_⟩, fun card h => by cases h⟩
      obtain ⟨haccepts, s₀, hs₀, hafter⟩ := hlisting s hs
      rw [hafter]
      exact ⟨haccepts, hs₀⟩
    | ok response =>
      obtain ⟨⟨fs, hread⟩, hcard⟩ := readTarget_paces (r := r₂) rfl response
      refine ⟨⟨_, ?_, hlisting.append hread.carries⟩, hcard⟩
      rw [hread.calls, hnoted, List.append_assoc]

omit [Pn532Device δ] in
theorem due_of_not_cached {cardCached targetActive recentlyPolled : Bool}
    (h : canReturnCachedPresence cardCached targetActive recentlyPolled = false) :
    recentlyPolled = false ∨ cardCached = true ∧ targetActive = false := by
  cases recentlyPolled with
  | false => exact Or.inl rfl
  | true =>
    cases cardCached with
    | false => cases h
    | true =>
      cases targetActive with
      | false => exact Or.inr ⟨rfl, rfl⟩
      | true => cases h

/-- A poll asks for a target once at most, at a time the pace permits. -/
theorem pollCard_paces (r : Pn532UartReader (ClockedDevice δ)) :
    (∃ es, Paces asked r r.Paced es r.pollCard.2) ∧
      ∀ card, r.pollCard.1 = .ok (some card) → r.pollCard.2.activeTarget.isSome = true := by
  unfold pollCard
  dsimp only [Pn532Device.now, Recorder.call]
  generalize Pn532Device.now r.pn532.inner = clock
  obtain ⟨now, inner⟩ := clock
  let r₁ : Pn532UartReader (ClockedDevice δ) :=
    { r with pn532 := ⟨inner, r.pn532.calls ++ [.read now]⟩ }
  have hread : ∀ s, r.Paced s → r₁.Paced { s with now := some now } := fun s hs =>
    ⟨hs.last, hs.cached, hs.active, hs.field⟩
  by_cases hcache : canReturnCachedPresence r.cachedCard.isSome r.activeTarget.isSome
    (r₁.recentlyPolled now) = true
  · rw [if_pos hcache]
    refine ⟨⟨[.read now], rfl, .single fun s hs => ⟨trivial, hread s hs⟩⟩, fun card hcard => ?_⟩
    have hcard : r.cachedCard = some card := Except.ok.inj hcard
    rw [canReturnCachedPresence, hcard] at hcache
    simpa using (Bool.and_eq_true_iff.mp hcache).2
  · rw [if_neg hcache]
    -- The cache is past its time, or it is for a card that is not selected.
    have hdue : (paceMonitor asked).Carries r.Paced [.read now] (r₁.Due now) := by
      refine .single fun s hs => ⟨trivial, hread s hs, rfl, ?_⟩
      rcases due_of_not_cached (Bool.not_eq_true _ ▸ hcache) with hold | ⟨hcached, hactive⟩
      · refine Or.inr fun last hlast => ?_
        have hlastPoll : r₁.lastPoll = some last := hs.last.trans hlast
        have hcached : r₁.cachedCard.isSome = s.cached := hs.cached
        rw [recentlyPolled, hlastPoll, hcached] at hold
        have hover : ¬ now - last < s.interval := of_decide_eq_false hold
        have hpositive := s.interval_pos
        show last + s.interval ≤ now
        omega
      · exact Or.inl ⟨hs.cached.symm.trans hcached, hs.active.symm.trans hactive⟩
    obtain ⟨⟨es, hpaces⟩, hcard⟩ := r₁.pollDevice_paces now
    refine ⟨⟨[.read now] ++ es, ?_, hdue.append hpaces.carries⟩, hcard⟩
    rw [← List.append_assoc]
    exact hpaces.calls

theorem powerOff_paces (hasked : asked = true) (r : Pn532UartReader (ClockedDevice δ)) :
    ∃ es, Paces asked r r.Paced es r.powerOff.2 := by
  obtain ⟨es, hpaces⟩ := release_paces (r := { r with activeTarget := none }) (P := r.Paced)
    fun s hs => ⟨fun h => ⟨hs.field h, hasked⟩, hs.last, hs.cached, rfl, fun h => by cases h⟩
  exact ⟨es, hpaces.calls, hpaces.carries⟩

omit [Pn532Device δ] in
theorem Paces.trans {r r' r'' : Pn532UartReader (ClockedDevice δ)} {P : Pace → Prop}
    {es fs : List ClockedCall} (h : Paces asked r P es r') (h' : Paces asked r' r'.Paced fs r'') :
    Paces asked r P (es ++ fs) r'' :=
  ⟨by rw [h'.calls, h.calls, List.append_assoc], h.carries.append h'.carries⟩

theorem exchangeTarget_paces (r : Pn532UartReader (ClockedDevice δ)) :
    (∃ es, Paces asked r r.Paced es r.exchangeTarget.2) ∧
      ∀ target, r.exchangeTarget.1 = .ok target →
        r.exchangeTarget.2.activeTarget.isSome = true := by
  unfold exchangeTarget
  cases htarget : r.activeTarget with
  | some target =>
    refine ⟨⟨[], (List.append_nil _).symm, .nil fun s hs => hs⟩, fun _ _ => ?_⟩
    rw [htarget]
    rfl
  | none =>
    obtain ⟨hpaces, hcard⟩ := r.pollCard_paces
    generalize r.pollCard = polled at hpaces hcard
    obtain ⟨result, r₁⟩ := polled
    cases result with
    | error error => exact ⟨hpaces, fun target h => by cases h⟩
    | ok found =>
      cases found with
      | none => exact ⟨hpaces, fun target h => by cases h⟩
      | some card => exact ⟨hpaces, fun target _ => hcard card rfl⟩

theorem exchangeApdu_paces (hasked : asked = true) (r : Pn532UartReader (ClockedDevice δ))
    (apdu : List UInt8) :
    ∃ es, Paces asked r r.Paced es (r.exchangeApdu apdu).2 := by
  unfold exchangeApdu
  by_cases hfit : apdu.length + 1 > pn532BufferSize - 9
  · rw [if_pos hfit]
    exact ⟨[], (List.append_nil _).symm, .nil fun s hs => hs⟩
  rw [if_neg hfit]
  obtain ⟨⟨es, hfound⟩, hactive⟩ := r.exchangeTarget_paces
  generalize r.exchangeTarget = searched at hfound hactive
  obtain ⟨found, r₁⟩ := searched
  cases found with
  | error error => exact ⟨es, hfound⟩
  | ok target =>
    dsimp only [Pn532Device.processDynamicResponse, Recorder.call]
    generalize Pn532Device.processDynamicResponse r₁.pn532.inner (.inDataExchange (target :: apdu))
      pn532ApduTimeoutMs = answered
    obtain ⟨answer, inner⟩ := answered
    have hselected : ∀ s, r₁.Paced s → s.active = true := fun s hs =>
      hs.active.symm.trans (hactive target rfl)
    let r₂ : Pn532UartReader (ClockedDevice δ) :=
      { r₁ with pn532 :=
        ⟨inner, r₁.pn532.calls ++ [.call (.dynamic (.inDataExchange (target :: apdu)) answer)]⟩ }
    -- Whatever is answered, unless it is the status of a failure.
    have hkept : (∀ s, (paceMonitor asked).next s
        (.call (.dynamic (.inDataExchange (target :: apdu)) answer)) = s) →
        ∃ es, Paces asked r r.Paced es r₂ := by
      intro hnext
      refine ⟨_, hfound.trans ⟨rfl, .single fun s hs => ⟨⟨hselected s hs, hasked⟩, ?_⟩⟩⟩
      rw [hnext s]
      exact ⟨hs.last, hs.cached, hs.active, hs.field⟩
    cases answer with
    | error error => exact hkept fun _ => rfl
    | ok answered =>
      cases answered with
      | nil => exact hkept fun _ => rfl
      | cons status response =>
        cases hstatus : exchangeStatusKeepsTargetActive status with
        | true =>
          have hnext : ∀ s, (paceMonitor asked).next s (.call (.dynamic
              (.inDataExchange (target :: apdu)) (.ok (status :: response)))) = s := fun s => by
            show (if exchangeStatusKeepsTargetActive status then s else _) = s
            exact if_pos hstatus
          simp only [hstatus]
          exact hkept hnext
        | false =>
          simp only [hstatus]
          have hgivenUp : ∀ s, (paceMonitor asked).next s (.call (.dynamic
              (.inDataExchange (target :: apdu)) (.ok (status :: response)))) =
                ⟨s.now, none, false, false⟩ := fun s => by
            show (if exchangeStatusKeepsTargetActive status then s else _) = _
            exact if_neg (by rw [hstatus]; decide)
          obtain ⟨fs, hreleased⟩ := release_paces
            (r := { r₂ with activeTarget := none, cachedCard := none, lastPoll := none })
            (P := fun s => s.last = none ∧ s.cached = false ∧ s.active = false)
            fun s hs => ⟨fun h => (by rw [hs.2.2] at h; cases h), hs.1.symm, hs.2.1.symm, rfl,
              fun h => by cases h⟩
          have hfailed : (paceMonitor asked).Carries r₁.Paced [.call (.dynamic
              (.inDataExchange (target :: apdu)) (.ok (status :: response)))]
              (fun s => s.last = none ∧ s.cached = false ∧ s.active = false) := by
            refine .single fun s hs => ⟨⟨hselected s hs, hasked⟩, ?_⟩
            rw [hgivenUp s]
            exact ⟨rfl, rfl, rfl⟩
          refine ⟨es ++ (_ :: fs), ?_, hfound.carries.append (hfailed.append hreleased.carries)⟩
          have hcalls : r₂.deactivateTarget.2.pn532.calls = r₂.pn532.calls ++ fs := hreleased.calls
          have hnoted : r₂.pn532.calls = r₁.pn532.calls ++ [_] := rfl
          rw [hnoted, hfound.calls, List.append_assoc, List.append_assoc] at hcalls
          exact hcalls

theorem serve_paces (r : Pn532UartReader (ClockedDevice δ)) {op : ReaderOp}
    (h : op = .pollCard ∨ asked = true) :
    ∃ es, Paces asked r r.Paced es
      ((backendMachine (Pn532UartReader (ClockedDevice δ))).step r op).2 := by
  cases op with
  | pollCard => exact r.pollCard_paces.1
  | powerOff =>
    have hasked := h.resolve_left fun h => by cases h
    exact r.powerOff_paces hasked
  | exchangeApdu apdu =>
    have hasked := h.resolve_left fun h => by cases h
    exact r.exchangeApdu_paces hasked apdu

end Pn532UartReader

/-- The calls of any operations are accepted; those of polls, with no card given up. -/
theorem backend_paced (asked : Bool) (device : δ) (ops : List ReaderOp)
    (hops : ∀ op ∈ ops, op = .pollCard ∨ asked = true) :
    (paceMonitor asked).Accepts (paceMonitor asked).start
      ((backendMachine (Pn532UartReader (ClockedDevice δ))).final (.opened ⟨device, []⟩)
        ops).pn532.calls := by
  refine ((Machine.run_of_inputs _ _ ops).invariant
    (A := fun e => e.input = .pollCard ∨ asked = true)
    (P := fun _ (r : Pn532UartReader (ClockedDevice δ)) =>
      (paceMonitor asked).Accepts (paceMonitor asked).start r.pn532.calls ∧
        r.Paced ((paceMonitor asked).after (paceMonitor asked).start r.pn532.calls)) ?_ ?_ ?_).1
  · exact ⟨trivial, rfl, rfl, rfl, fun h => by cases h⟩
  · intro h r op hsofar hop
    obtain ⟨haccepts, hpaced⟩ := hsofar
    obtain ⟨es, hpaces⟩ := r.serve_paces hop
    obtain ⟨haccepts', hpaced'⟩ := hpaces.carries _ hpaced
    have hcalls : ((backendMachine _).event r op).after.pn532.calls = r.pn532.calls ++ es :=
      hpaces.calls
    rw [hcalls, (paceMonitor asked).accepts_append, (paceMonitor asked).after_append]
    exact ⟨⟨haccepts, haccepts'⟩, hpaced'⟩
  · intro e he
    have hinput := List.mem_map_of_mem (f := Event.input) he
    rw [Machine.history_inputs] at hinput
    exact hops _ hinput

def ClockedCall.reads : ClockedCall → Option ℕ
  | .read now => some now
  | .call _ => none

def ClockedCall.isListing : ClockedCall → Bool
  | .call command => command.isListing
  | .read _ => false

/-- The field is switched off, or an exchange fails by its status. -/
def ClockedCall.releases : ClockedCall → Bool
  | .call (.process (.rfConfiguration data) _) => data = rfFieldOff
  | .call (.dynamic (.inDataExchange _) (.ok (status :: _))) =>
    !exchangeStatusKeepsTargetActive status
  | _ => false

/-- What the clock last showed. -/
def ClockShows (es : List ClockedCall) (now : ℕ) : Prop :=
  Held ClockedCall.reads (fun _ => false) es now

namespace Pace

theorem heard_now (s : Pace) (answer : Except Pn532Error (List UInt8)) :
    (s.heard answer).now = s.now ∧ (s.heard answer).last = s.last := by
  unfold heard
  cases listed answer with
  | none => exact ⟨rfl, rfl⟩
  | some present => exact ⟨rfl, rfl⟩

theorem next_kept {s : Pace} {e : ClockedCall} (hlisting : e.isListing = false)
    (hreleases : e.releases = false) :
    (s.next e).last = s.last ∧ (s.next e).cached = s.cached ∧ (s.next e).active = s.active := by
  unfold next
  split
  · exact ⟨rfl, rfl, rfl⟩
  · cases hlisting
  · next status response =>
    have hkeeps : exchangeStatusKeepsTargetActive status = true := by
      simpa [ClockedCall.releases] using hreleases
    rw [if_pos hkeeps]
    exact ⟨rfl, rfl, rfl⟩
  · next data _ =>
    have hother : data ≠ rfFieldOff := of_decide_eq_false hreleases
    rw [if_neg hother]
    exact ⟨rfl, rfl, rfl⟩
  · exact ⟨rfl, rfl, rfl⟩

theorem next_absent {s : Pace} {e : ClockedCall} (hlisting : e.isListing = false)
    (hpermits : (paceMonitor asked).permits s e) (hcached : s.cached = false) (hactive : s.active = false) :
    (s.next e).last = s.last ∧ (s.next e).cached = false ∧ (s.next e).active = false := by
  unfold next
  split
  · exact ⟨rfl, hcached, hactive⟩
  · cases hlisting
  · have hselected : s.active = true := hpermits.1
    rw [hactive] at hselected
    cases hselected
  · split
    · exact ⟨rfl, hcached, rfl⟩
    · exact ⟨rfl, hcached, hactive⟩
  · exact ⟨rfl, hcached, hactive⟩

theorem next_selected {s : Pace} {e : ClockedCall} (hpermits : (paceMonitor false).permits s e)
    (hs : s.cached = s.active) : (s.next e).cached = (s.next e).active := by
  unfold next
  split
  · exact hs
  · next answer =>
    unfold heard
    cases listed answer with
    | none => exact hs
    | some present => rfl
  · cases hpermits.2
  · split
    · next hoff =>
      have hactive : s.active = false := by
        cases h : s.active with
        | false => rfl
        | true => cases hpermits hoff h
      exact hs.trans hactive
    · exact hs
  · exact hs

theorem next_last {s : Pace} {e : ClockedCall} (hlisting : e.isListing = false)
    (hpermits : (paceMonitor false).permits s e) : (s.next e).last = s.last := by
  unfold next
  split
  · rfl
  · cases hlisting
  · cases hpermits.2
  · split
    · rfl
    · rfl
  · rfl

theorem interval_ge (s : Pace) : fromMillis pn532PollIntervalMs ≤ s.interval := by
  unfold interval
  split
  · exact Nat.le_refl _
  · decide

theorem next_now (s : Pace) (e : ClockedCall) :
    (s.next e).now = latched ClockedCall.reads (fun _ => false) s.now e := by
  unfold next
  split
  · rfl
  · exact (heard_now _ _).1
  · split
    · rfl
    · rfl
  · split
    · rfl
    · rfl
  · rfl

end Pace

theorem clockShows_of_now {es : List ClockedCall} {now : ℕ}
    (h : ((paceMonitor asked).after (paceMonitor asked).start es).now = some now) : ClockShows es now := by
  have hlatched : ∀ s : Pace, ((paceMonitor asked).after s es).now =
      es.foldl (latched ClockedCall.reads fun _ => false) s.now := by
    clear h
    induction es with
    | nil => exact fun _ => rfl
    | cons e es ih =>
      intro s
      rw [(paceMonitor asked).after_cons, ih, List.foldl_cons, ← Pace.next_now]
      rfl
  rw [hlatched] at h
  exact latched_eq_some_iff.mp h

/-- Two commands for a target, none between them, are a second apart unless a card was released, and
two if the first was answered that there is no target. -/
theorem listings_apart {es pre mid post : List ClockedCall}
    {answer answer' : Except Pn532Error (List UInt8)}
    (h : (paceMonitor asked).Accepts (paceMonitor asked).start es)
    (hs : es = pre ++ .call (.dynamic .inListOneIsoATarget answer) ::
      (mid ++ .call (.dynamic .inListOneIsoATarget answer') :: post))
    (hmid : ∀ e ∈ mid, e.isListing = false) :
    ∃ first second, ClockShows pre first ∧
      ClockShows (pre ++ .call (.dynamic .inListOneIsoATarget answer) :: mid) second ∧
      (listed answer = some false → first + fromMillis pn532AbsentPollIntervalMs ≤ second) ∧
      (listed answer = some true → (∀ e ∈ mid, e.releases = false) →
        first + fromMillis pn532PollIntervalMs ≤ second) ∧
      (asked = false → first + fromMillis pn532PollIntervalMs ≤ second) := by
  obtain ⟨first, hfirst, -⟩ := (paceMonitor asked).permits_of_accepts h hs
  have hs' : es = (pre ++ .call (.dynamic .inListOneIsoATarget answer) :: mid) ++
      .call (.dynamic .inListOneIsoATarget answer') :: post := by
    rw [hs, List.append_assoc, List.cons_append]
  obtain ⟨second, hsecond, hdue⟩ := (paceMonitor asked).permits_of_accepts h hs'
  have hshown := clockShows_of_now hsecond
  -- The pace behind the first command, and what was accepted on the way to the second one.
  rw [hs', (paceMonitor asked).accepts_append, (paceMonitor asked).accepts_append] at h
  obtain ⟨⟨hpre, -, hbetween⟩, -⟩ := h
  rw [(paceMonitor asked).after_append, (paceMonitor asked).after_cons] at hdue
  generalize hs₀ : (paceMonitor asked).after (paceMonitor asked).start pre = s at *
  obtain ⟨t, ht⟩ : ∃ t, (paceMonitor asked).next s (.call (.dynamic .inListOneIsoATarget answer)) = t :=
    ⟨_, rfl⟩
  rw [ht] at hbetween hdue
  have hlast : t.last = some first := by
    rw [← ht]
    exact (Pace.heard_now _ _).2.trans hfirst
  have hlisted : t.cached = (listed answer).getD s.cached ∧
      t.active = (listed answer).getD s.active := by
    rw [← ht]
    show (Pace.heard _ answer).cached = _ ∧ (Pace.heard _ answer).active = _
    unfold Pace.heard
    cases listed answer with
    | none => exact ⟨rfl, rfl⟩
    | some present => exact ⟨rfl, rfl⟩
  -- A card that is still selected behind the calls between is not looked for at once.
  have hapart : ((paceMonitor asked).after t mid).last = some first →
      ((paceMonitor asked).after t mid).cached = ((paceMonitor asked).after t mid).active →
      first + ((paceMonitor asked).after t mid).interval ≤ second := by
    intro hlast' hselected
    rcases hdue with ⟨hknown, hunselected⟩ | hover
    · rw [hselected, hunselected] at hknown
      cases hknown
    · exact hover first hlast'
  have hinterval := ((paceMonitor asked).after t mid).interval_ge
  refine ⟨first, second, clockShows_of_now (hs₀ ▸ hfirst), hshown, fun habsent => ?_,
    fun hpresent hreleases => ?_, fun hasked => ?_⟩
  · rw [habsent] at hlisted
    obtain ⟨hlast', hcached, hactive⟩ := (paceMonitor asked).kept_of_accepts
      (J := fun t => t.last = some first ∧ t.cached = false ∧ t.active = false)
      (fun t e he hJ hpermits => by
        obtain ⟨hlast', hcached, hactive⟩ :=
          Pace.next_absent (hmid e he) hpermits hJ.2.1 hJ.2.2
        exact ⟨hlast'.trans hJ.1, hcached, hactive⟩)
      ⟨hlast, hlisted.1, hlisted.2⟩ hbetween
    have hover := hapart hlast' (hcached.trans hactive.symm)
    rw [Pace.interval, hcached] at hover
    exact hover
  · rw [hpresent] at hlisted
    obtain ⟨hlast', hselected⟩ := (paceMonitor asked).kept_of_accepts
      (J := fun t => t.last = some first ∧ t.cached = t.active)
      (fun t e he hJ _ => by
        obtain ⟨hlast', hcached, hactive⟩ := Pace.next_kept (s := t) (hmid e he) (hreleases e he)
        exact ⟨hlast'.trans hJ.1, hcached.trans (hJ.2.trans hactive.symm)⟩)
      ⟨hlast, hlisted.1.trans hlisted.2.symm⟩ hbetween
    have hover := hapart hlast' hselected
    omega
  · subst hasked
    have hpolled : s.cached = s.active := by
      rw [← hs₀]
      exact (paceMonitor false).kept_of_accepts (J := fun s => s.cached = s.active)
        (fun s e _ hJ hpermits => Pace.next_selected hpermits hJ) rfl hpre
    obtain ⟨hlast', hselected⟩ := (paceMonitor false).kept_of_accepts
      (J := fun t => t.last = some first ∧ t.cached = t.active)
      (fun t e he hJ hpermits =>
        ⟨(Pace.next_last (hmid e he) hpermits).trans hJ.1, Pace.next_selected hpermits hJ.2⟩)
      ⟨hlast, by rw [hlisted.1, hlisted.2, hpolled]⟩ hbetween
    have hover := hapart hlast' hselected
    omega

theorem ClockShows.unique {es : List ClockedCall} {now now' : ℕ} (h : ClockShows es now)
    (h' : ClockShows es now') : now = now' := by
  have hlatched := latched_eq_some_iff.mpr h
  rw [latched_eq_some_iff.mpr h'] at hlatched
  exact (Option.some.inj hlatched).symm

end VirtualCcid.Nfc
