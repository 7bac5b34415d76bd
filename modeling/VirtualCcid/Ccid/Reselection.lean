import Mathlib.Data.List.Induction
import VirtualCcid.Ccid.Activation

/-! Which activation the exchanges of a card session reach: the one whose card the power-on
reported, unless an exchange has to poll for a target by itself. -/
namespace VirtualCcid.Ccid
open Rust Nfc Runs

def DeviceEvent.isListing : DeviceEvent → Bool
  | .call _ c => c.isListing
  | .answered .. => false

/-- The ATR with which a successful power-on reports its card. -/
def DeviceEvent.atr : DeviceEvent → Option (List UInt8)
  | .answered input (.response (.ok (.dataBlock _ _ status _ _ atr))) =>
    if input.isPowerOn ∧ status = .ok .active then some atr else none
  | _ => none

/-- The activation last named by the device, and the target of the session if it is intact. -/
structure ActivationState where
  known : Option (UInt8 × CardPresence)
  session : Option UInt8
  deriving DecidableEq

def ActivationState.start : ActivationState := ⟨none, none⟩

/-- The target of the activation, if the ATR is that of its card. -/
def reportedTarget (known : Option (UInt8 × CardPresence)) (atr : List UInt8) : Option UInt8 :=
  known.bind fun (target, card) =>
    if CcidBridge.buildPseudoAtr card = .ok atr then some target else none

def activationNext (s : ActivationState) (e : DeviceEvent) : ActivationState where
  known :=
    match e with
    | .call _ c => knownAfter s.known [c]
    | .answered .. => s.known
  session :=
    if e.isListing then none
    else
      match e.atr with
      | some atr => reportedTarget s.known atr
      | none => s.session

/-- An exchange goes to the target of an intact session. -/
def activationMonitor : Monitor DeviceEvent ActivationState where
  start := .start
  next := activationNext
  permits
    | s, .call _ (.dynamic (.inDataExchange data) _) =>
      ∃ target, s.session = some target ∧ data.head? = some target
    | _, _ => True

@[simp] theorem activationMonitor_next : activationMonitor.next = activationNext := rfl

def lastNamed (events : List DeviceEvent) : Option (UInt8 × CardPresence) :=
  (activationMonitor.after .start events).known

/-- The last power-on reported the card of the activation of `target`, and the device has not
been asked for a target since. -/
def InSession (events : List DeviceEvent) (target : UInt8) : Prop :=
  ∃ before powerOn after atr card, events = before ++ powerOn :: after ∧
    powerOn.atr = some atr ∧ lastNamed before = some (target, card) ∧
      CcidBridge.buildPseudoAtr card = .ok atr ∧ ∀ e ∈ after, e.isListing = false ∧ e.atr = none

theorem isListing_of_atr {e : DeviceEvent} {atr : List UInt8} (h : e.atr = some atr) :
    e.isListing = false := by
  cases e with
  | call => simp [DeviceEvent.atr] at h
  | answered => rfl

theorem reportedTarget_eq_some {known : Option (UInt8 × CardPresence)} {atr : List UInt8}
    {target : UInt8} : reportedTarget known atr = some target ↔
      ∃ card, known = some (target, card) ∧ CcidBridge.buildPseudoAtr card = .ok atr := by
  cases known with
  | none => simp [reportedTarget]
  | some named =>
    obtain ⟨t, card⟩ := named
    simp only [reportedTarget, Option.bind_some, Option.some.injEq, Prod.mk.injEq]
    split <;> simp_all

theorem after_session {events : List DeviceEvent}
    (h : ∀ e ∈ events, e.isListing = false ∧ e.atr = none) (s : ActivationState) :
    (activationMonitor.after s events).session = s.session := by
  induction events generalizing s with
  | nil => rfl
  | cons e events ih =>
    obtain ⟨hl, ha⟩ := h e (by simp)
    rw [Monitor.after_cons, ih fun d hd => h d (by simp [hd])]
    simp [activationNext, hl, ha]

theorem inSession_iff (events : List DeviceEvent) (target : UInt8) :
    InSession events target ↔ (activationMonitor.after .start events).session = some target := by
  constructor
  · rintro ⟨before, powerOn, after, atr, card, rfl, hatr, hnamed, hcard, hafter⟩
    rw [Monitor.after_append, Monitor.after_cons, after_session hafter]
    have hr : reportedTarget (activationMonitor.after .start before).known atr = some target :=
      reportedTarget_eq_some.mpr ⟨card, hnamed, hcard⟩
    simpa [activationNext, isListing_of_atr hatr, hatr] using hr
  · intro h
    induction events using List.reverseRecOn with
    | nil => simp [ActivationState.start] at h
    | append_singleton events e ih =>
      rw [Monitor.after_append, Monitor.after_cons, Monitor.after_nil] at h
      simp only [activationMonitor_next, activationNext] at h
      by_cases hl : e.isListing = true
      · simp [hl] at h
      simp only [hl] at h
      cases hatr : e.atr with
      | some atr =>
        obtain ⟨card, hnamed, hcard⟩ := reportedTarget_eq_some.mp (by simpa [hatr] using h)
        exact ⟨events, e, [], atr, card, rfl, hatr, hnamed, hcard, by simp⟩
      | none =>
        obtain ⟨before, powerOn, after, atr, card, rfl, hrest⟩ := ih (by simpa [hatr] using h)
        refine ⟨before, powerOn, after ++ [e], atr, card, by simp, ?_⟩
        simpa [or_imp, forall_and, hatr, hl, and_assoc] using hrest

theorem after_calls_known (s : ActivationState) (input : BridgeInput) (cs : List DeviceCall) :
    (activationMonitor.after s (cs.map (.call input))).known = knownAfter s.known cs := by
  induction cs generalizing s with
  | nil => rfl
  | cons c cs ih =>
    rw [List.map_cons, Monitor.after_cons, ih, ← List.singleton_append, knownAfter_append]
    rfl

theorem accepts_calls {cs : List DeviceCall} (h : ∀ c ∈ cs, c.isExchange = false)
    (s : ActivationState) (input : BridgeInput) :
    activationMonitor.Accepts s (cs.map (.call input)) := by
  induction cs generalizing s with
  | nil => trivial
  | cons c cs ih =>
    refine ⟨?_, ih (fun d hd => h d (by simp [hd])) _⟩
    have hc := h c (by simp)
    match c with
    | .dynamic (.inDataExchange _) _ => simp [DeviceCall.isExchange] at hc
    | .dynamic .inListOneIsoATarget _ | .dynamic (.rfConfiguration _) _ | .process _ _ => trivial

variable {δ : Type*} [Pn532Device δ]

namespace CcidBridge
variable {b : CcidBridge (Pn532UartReader (RecordedDevice δ))} {s : ActivationState}

/-- An APDU for a powered slot whose reader has given its target up, as a failed `power_off` does:
the exchange polls for a target by itself. -/
def Reselects (b : CcidBridge (Pn532UartReader δ)) : BridgeInput → Prop
  | .command (.xfrBlock _ _ _ _ payload) =>
    b.slotPowered = true ∧ b.reader.activeTarget = none ∧
      payload.length + 1 ≤ pn532BufferSize - 9 ∧ ¬ SelectOverruns payload
  | _ => False

instance (b : CcidBridge (Pn532UartReader δ)) : DecidablePred b.Reselects
  | .command (.xfrBlock _ _ _ _ payload) =>
    inferInstanceAs (Decidable (b.slotPowered = true ∧ b.reader.activeTarget = none ∧
      payload.length + 1 ≤ pn532BufferSize - 9 ∧ ¬ SelectOverruns payload))
  | .refresh | .command (.iccPowerOn ..) | .command (.iccPowerOff ..)
  | .command (.getSlotStatus ..) | .command (.getParameters ..) | .command (.resetParameters ..)
  | .command (.setParameters ..) | .command (.abort ..) | .command (.unknown ..) => isFalse id

/-- The reader agrees with the device, and a target it holds in a powered slot is the session's. -/
structure Tracks (s : ActivationState) (b : CcidBridge (Pn532UartReader (RecordedDevice δ))) :
    Prop where
  powered : b.PoweredHasCard
  name : b.readerCapabilities.name ≠ "dummy"
  agrees : b.reader.Agrees s.known
  session : b.slotPowered = true → ∀ target, b.reader.activeTarget = some target →
    s.session = some target

/-- What a step shows, from a state with no commands noted. -/
def shown (b : CcidBridge (Pn532UartReader (RecordedDevice δ))) (i : BridgeInput) :
    List DeviceEvent :=
  let r := (bridgeMachine (Pn532UartReader (RecordedDevice δ))).step b i
  r.2.reader.pn532.calls.map (.call i) ++ [.answered i r.1]

def Kept (s : ActivationState) (b : CcidBridge (Pn532UartReader (RecordedDevice δ)))
    (i : BridgeInput) : Prop :=
  activationMonitor.Accepts s (b.shown i) ∧
    Tracks (activationMonitor.after s (b.shown i))
      ((bridgeMachine (Pn532UartReader (RecordedDevice δ))).step b i).2

theorem shown_eq {i : BridgeInput} {cs : List DeviceCall} (hc : b.reader.pn532.calls = [])
    (hf : b.reader.Follows ((bridgeMachine _).step b i).2.reader cs) :
    b.shown i = cs.map (.call i) ++ [.answered i ((bridgeMachine _).step b i).1] := by
  simp [shown, hf.calls, hc]

/-- A step is kept if its commands are accepted and followed by the reader, and the session fits
the target it leaves. -/
theorem kept_of_follows {i : BridgeInput} {cs : List DeviceCall} (ht : Tracks s b)
    (hc : b.reader.pn532.calls = [])
    (hf : b.reader.Follows ((bridgeMachine _).step b i).2.reader cs)
    (hacc : activationMonitor.Accepts s (cs.map (.call i)))
    (hs : ((bridgeMachine _).step b i).2.slotPowered = true →
      ∀ target, ((bridgeMachine _).step b i).2.reader.activeTarget = some target →
        (activationMonitor.after s (b.shown i)).session = some target) : Kept s b i := by
  have hshown := shown_eq hc hf
  refine ⟨?_, step_poweredHasCard ht.powered i, ?_, ?_, hs⟩
  · rw [hshown, Monitor.accepts_append]
    exact ⟨hacc, trivial, trivial⟩
  · rw [step_capabilities]
    exact ht.name
  · rw [hshown, Monitor.after_append, Monitor.after_cons, Monitor.after_nil]
    simp only [activationMonitor_next, activationNext, after_calls_known]
    exact hf.agrees _ ht.agrees

/-- A step that exchanges nothing and leaves the slot unpowered, or the reader without target. -/
theorem kept_of_inactive {i : BridgeInput} {cs : List DeviceCall} (ht : Tracks s b)
    (hc : b.reader.pn532.calls = [])
    (hf : b.reader.Follows ((bridgeMachine _).step b i).2.reader cs)
    (hx : ∀ c ∈ cs, c.isExchange = false)
    (hs : ((bridgeMachine _).step b i).2.slotPowered = true →
      ((bridgeMachine _).step b i).2.reader.activeTarget = none) : Kept s b i := by
  apply kept_of_follows ht hc hf (accepts_calls hx s i)
  intro hp target htarget
  rw [hs hp] at htarget
  cases htarget

theorem atr_eq_none {i : BridgeInput} (hi : i.isPowerOn = false) (output : BridgeOutput) :
    (DeviceEvent.answered i output).atr = none := by
  unfold DeviceEvent.atr
  split <;> simp_all

theorem kept_of_quiet {i : BridgeInput} (hi : i.isPowerOn = false) (ht : Tracks s b)
    (hc : b.reader.pn532.calls = [])
    (hr : ((bridgeMachine _).step b i).2.reader = b.reader)
    (hp : ((bridgeMachine _).step b i).2.slotPowered = true → b.slotPowered = true) :
    Kept s b i := by
  have hf : b.reader.Follows ((bridgeMachine _).step b i).2.reader [] := hr.symm ▸ .refl _
  apply kept_of_follows ht hc hf trivial
  rw [hr]
  intro hpow target htarget
  have ha := atr_eq_none hi ((bridgeMachine _).step b i).1
  have hshown : b.shown i = [.answered i ((bridgeMachine _).step b i).1] := by
    simp [shown, hr, hc]
  rw [hshown, Monitor.after_cons, Monitor.after_nil]
  simpa [activationNext, DeviceEvent.isListing, ha] using ht.session (hp hpow) target htarget

theorem refresh_kept (ht : Tracks s b) (hc : b.reader.pn532.calls = []) : Kept s b .refresh := by
  rcases refreshCardPresence_cases ht.powered with ⟨hp, heq⟩ | ⟨hp, hp', hreader⟩
  · exact kept_of_quiet rfl ht hc (by simp [bridgeMachine, heq]) fun _ => hp
  · obtain ⟨cs, hf, hx⟩ := pollCard_follows b.reader
    apply kept_of_inactive ht hc (by simpa [bridgeMachine, hreader] using hf) hx
    simp [bridgeMachine, hp']

theorem getSlotStatus_kept (ht : Tracks s b) (hc : b.reader.pn532.calls = [])
    (slot seq : UInt8) : Kept s b (.command (.getSlotStatus slot seq)) := by
  have hs := getSlotStatus_state ht.name slot seq
  rcases refreshCardPresence_cases ht.powered with ⟨hp, heq⟩ | ⟨hp, hp', hreader⟩
  · exact kept_of_quiet rfl ht hc (by simp [bridgeMachine, handleCommand, hs, heq])
      fun _ => hp
  · obtain ⟨cs, hf, hx⟩ := pollCard_follows b.reader
    refine kept_of_inactive ht hc (by simpa [bridgeMachine, handleCommand, hs, hreader] using hf)
      hx ?_
    simp [bridgeMachine, handleCommand, hs, hp']

theorem iccPowerOff_kept (ht : Tracks s b) (hc : b.reader.pn532.calls = []) (slot seq : UInt8) :
    Kept s b (.command (.iccPowerOff slot seq)) := by
  obtain ⟨cs, hf, hu, hnone⟩ := b.reader.powerOff_recorded
  have hreader : (b.iccPowerOff slot seq).2.reader = b.reader.powerOff.2 :=
    b.iccPowerOff_reader slot seq
  refine kept_of_inactive ht hc (by simpa [bridgeMachine, handleCommand, hreader] using hf)
    (Pn532UartReader.unread_not_exchange hu) fun _ => ?_
  simp [bridgeMachine, handleCommand, hreader, hnone]

theorem iccPowerOn_kept (ht : Tracks s b) (hc : b.reader.pn532.calls = [])
    (slot seq powerSelect : UInt8) : Kept s b (.command (.iccPowerOn slot seq powerSelect)) := by
  obtain ⟨cs, hf, hx, hcard⟩ := b.reader.pollCard_recorded
  obtain ⟨result, reader, hpoll⟩ : ∃ result reader, NfcReader.pollCard b.reader = (result, reader) :=
    ⟨_, _, rfl⟩
  have hpoll' : b.reader.pollCard = (result, reader) := hpoll
  rw [hpoll'] at hf hcard
  match result with
  | .error error | .ok none =>
    have hf' : b.reader.Follows ((bridgeMachine _).step b
        (.command (.iccPowerOn slot seq powerSelect))).2.reader cs := by
      simpa [bridgeMachine, handleCommand, iccPowerOn, hpoll] using hf
    apply kept_of_inactive ht hc hf' hx
    simp [bridgeMachine, handleCommand, iccPowerOn, hpoll]
  | .ok (some card) =>
    obtain ⟨atr, ha⟩ := buildPseudoAtr_returns card
    obtain ⟨⟨target, htarget⟩, hcached, _⟩ := hcard card rfl
    have hstep : (bridgeMachine _).step b (.command (.iccPowerOn slot seq powerSelect)) =
        (.response (.ok (.dataBlock slot seq (.ok .active) 0 0 atr)),
          { b with reader, currentCard := some card, slotPowered := true }) := by
      simp [bridgeMachine, handleCommand, iccPowerOn, hpoll, ha]
    have hf' : b.reader.Follows ((bridgeMachine _).step b
        (.command (.iccPowerOn slot seq powerSelect))).2.reader cs := by
      rw [hstep]
      exact hf
    apply kept_of_follows ht hc hf' (accepts_calls hx s _)
    rw [shown_eq hc hf', hstep]
    intro _ target' htarget'
    obtain ⟨card', hcached', hknown⟩ := hf.agrees _ ht.agrees target' htarget'
    obtain rfl : card = card' := Option.some.inj (hcached.symm.trans hcached')
    rw [Monitor.after_append, Monitor.after_cons, Monitor.after_nil]
    simp only [activationMonitor_next, activationNext, after_calls_known]
    exact reportedTarget_eq_some.mpr ⟨card, hknown, ha⟩

theorem exchangeApdu_too_long {r : Pn532UartReader δ} {apdu : List UInt8}
    (h : apdu.length + 1 > pn532BufferSize - 9) : (r.exchangeApdu apdu).2 = r := by
  simp [Pn532UartReader.exchangeApdu, h]

/-- An APDU that is sent to the target held in a powered slot goes to the session's. -/
theorem exchange_kept {i : BridgeInput} (hi : i.isPowerOn = false) (ht : Tracks s b)
    (hc : b.reader.pn532.calls = []) (hp : b.slotPowered = true) {target : UInt8}
    (htarget : b.reader.activeTarget = some target) {apdu : List UInt8}
    (hfit : ¬ apdu.length + 1 > pn532BufferSize - 9)
    (hr : ((bridgeMachine _).step b i).2.reader = (b.reader.exchangeApdu apdu).2) :
    Kept s b i := by
  have hx : b.reader.exchangeTarget = (.ok target, b.reader) := by
    simp [Pn532UartReader.exchangeTarget, htarget]
  obtain ⟨result, cs, hf, hu, hafter⟩ := Pn532UartReader.exchangeApdu_addressed hfit hx
  rw [← hr] at hf
  have hsession := ht.session hp target htarget
  apply kept_of_follows ht hc hf
  · exact ⟨⟨target, hsession, rfl⟩, accepts_calls (Pn532UartReader.unread_not_exchange hu) _ _⟩
  rw [shown_eq hc hf, hr]
  intro _ t h
  have hsame : s.session = some t := hsession.trans (htarget.symm.trans (hafter t h))
  rw [after_session]
  · exact hsame
  -- None of the events lists targets or reports a card.
  intro e he
  rcases List.mem_append.mp he with he | he
  · obtain ⟨c, hc, rfl⟩ := List.mem_map.mp he
    rcases List.mem_cons.mp hc with rfl | hc
    · exact ⟨rfl, rfl⟩
    · obtain ⟨request, outcome, rfl⟩ := hu c hc
      exact ⟨rfl, rfl⟩
  · obtain rfl := List.mem_singleton.mp he
    exact ⟨rfl, atr_eq_none hi _⟩

theorem xfrBlock_kept (ht : Tracks s b) (hc : b.reader.pn532.calls = []) (slot seq bwi : UInt8)
    (levelParameter : UInt16) (payload : List UInt8)
    (hadm : ¬ b.Reselects (.command (.xfrBlock slot seq bwi levelParameter payload))) :
    Kept s b (.command (.xfrBlock slot seq bwi levelParameter payload)) := by
  rcases xfrBlock_cases ht.powered slot seq payload with ⟨hp, hs⟩ | ⟨hp, hp', hreader | hreader⟩
  · have hs' : ((bridgeMachine _).step b
        (.command (.xfrBlock slot seq bwi levelParameter payload))).2 =
        (b.exchangeBlock slot seq payload).2 := congrArg Prod.snd hs
    rcases exchangeBlock_reader ht.powered hp slot seq payload with
      ⟨_, hr⟩ | ⟨ho, apdu, hlen, hr⟩
    · exact kept_of_quiet rfl ht hc (by rw [hs', hr]) fun _ => hp
    by_cases hfit : apdu.length + 1 > pn532BufferSize - 9
    · exact kept_of_quiet rfl ht hc (by rw [hs', hr]; exact exchangeApdu_too_long hfit) fun _ => hp
    obtain ⟨target, htarget⟩ : ∃ target, b.reader.activeTarget = some target := by
      by_contra hnone
      simp only [not_exists, ← ne_eq, ← Option.eq_none_iff_forall_ne_some] at hnone
      exact hadm ⟨hp, hnone, by omega, ho⟩
    have hreader : ((bridgeMachine _).step b
        (.command (.xfrBlock slot seq bwi levelParameter payload))).2.reader =
        (b.reader.exchangeApdu apdu).2 := by
      rw [hs']
      exact hr
    exact exchange_kept rfl ht hc hp htarget hfit hreader
  · exact kept_of_quiet rfl ht hc hreader (by simp [bridgeMachine, handleCommand, hp'])
  · obtain ⟨cs, hf, hx⟩ := pollCard_follows b.reader
    apply kept_of_inactive ht hc (by simpa [bridgeMachine, handleCommand, hreader] using hf) hx
    simp [bridgeMachine, handleCommand, hp']

theorem step_kept (ht : Tracks s b) (hc : b.reader.pn532.calls = []) (i : BridgeInput)
    (hadm : ¬ b.Reselects i) : Kept s b i := by
  cases i with
  | refresh => exact refresh_kept ht hc
  | command c =>
    cases c with
    | iccPowerOn slot seq powerSelect => exact iccPowerOn_kept ht hc slot seq powerSelect
    | iccPowerOff slot seq => exact iccPowerOff_kept ht hc slot seq
    | getSlotStatus slot seq => exact getSlotStatus_kept ht hc slot seq
    | xfrBlock slot seq bwi levelParameter payload =>
      exact xfrBlock_kept ht hc slot seq bwi levelParameter payload hadm
    | setParameters slot seq protocolNum payload =>
      refine kept_of_quiet rfl ht hc (b.setParameters_reader slot seq protocolNum payload) ?_
      simp only [bridgeMachine, handleCommand, setParameters]
      repeat' split
      all_goals exact id
    | getParameters | resetParameters | abort | unknown => exact kept_of_quiet rfl ht hc rfl id

end CcidBridge

/-- Unless an APDU meets a powered slot whose reader has given its target up, every exchange goes
to the activation whose card the last power-on reported, with no other listing since. -/
theorem exchange_in_session (device : δ)
    {h : List (Event (CcidBridge (Pn532UartReader (RecordedDevice δ))) BridgeInput
      (List DeviceCall × BridgeOutput))} {b : CcidBridge (Pn532UartReader (RecordedDevice δ))}
    (hr : Run (deviceMachine δ) (.new (.opened ⟨device, []⟩)) h b)
    (hadm : ∀ e ∈ h, ¬ e.before.Reselects e.input) :
    ∀ pre input data result post,
      h.flatMap deviceEvents = pre ++ .call input (.dynamic (.inDataExchange data) result) :: post →
        ∃ target, InSession pre target ∧ data.head? = some target := by
  have hacc := hr.accepted (A := fun e => ¬ e.before.Reselects e.input) activationMonitor
    deviceEvents (fun b s => CcidBridge.Tracks s b) ?_ ?_ hadm
  · intro pre input data result post hs
    simp only [inSession_iff]
    exact activationMonitor.permits_of_accepts hacc.1 hs
  · refine ⟨CcidBridge.new_poweredHasCard _, ?_, ?_, ?_⟩
    · show "pn532-uart" ≠ "dummy"
      decide
    · intro target h
      simp [CcidBridge.new, Pn532UartReader.opened] at h
    · intro h
      simp [CcidBridge.new] at h
  · intro b i s ht hadm
    exact CcidBridge.step_kept (b := { b with
      reader := { b.reader with pn532 := { b.reader.pn532 with calls := [] } } })
      ⟨ht.powered, ht.name, ht.agrees, ht.session⟩ rfl i hadm

def stuckField : ScriptedDevice where
  processResults := [.ok (), .error .timeoutAck]
  answers := [.ok [1, 1, 0x00, 0x04, 0x20, 1, 0xaa], .ok [1, 1, 0x00, 0x04, 0x20, 1, 0xbb],
    .ok [0x00, 0x90, 0x00]]

def stuckFieldInputs : List BridgeInput :=
  [.command (.iccPowerOn 0 1 0), .command (.iccPowerOff 0 2),
    .command (.xfrBlock 0 3 0 0 [0x00, 0xb0, 0x00, 0x00])]

/-- A failed power-off leaves the slot powered, and the next APDU goes to the second card. -/
theorem exchange_after_failed_power_off :
    ¬ ∀ h b, Run (deviceMachine ScriptedDevice) (.new (.opened ⟨stuckField, []⟩)) h b →
      ∀ pre input data result post,
        h.flatMap deviceEvents = pre ++ .call input (.dynamic (.inDataExchange data) result) :: post →
          ∃ target, InSession pre target ∧ data.head? = some target := by
  intro hall
  let events := ((deviceMachine ScriptedDevice).history (.new (.opened ⟨stuckField, []⟩))
    stuckFieldInputs).flatMap deviceEvents
  have hsplit : events = events.take 6 ++
      .call (.command (.xfrBlock 0 3 0 0 [0x00, 0xb0, 0x00, 0x00]))
        (.dynamic (.inDataExchange [1, 0x00, 0xb0, 0x00, 0x00]) (.ok [0x00, 0x90, 0x00])) ::
      events.drop 7 := rfl
  obtain ⟨target, hsession, _⟩ := hall _ _ (Machine.run_of_inputs _ _ _) _ _ _ _ _ hsplit
  rw [inSession_iff] at hsession
  have hnone : (activationMonitor.after .start (events.take 6)).session = none := rfl
  simp [hnone] at hsession

theorem exchange_in_session_of_scripted :
    let events := ((deviceMachine ScriptedDevice).history
      (.new (.opened ⟨⟨[], stuckField.answers.tail⟩, []⟩)) [.command (.iccPowerOn 0 1 0),
        .command (.xfrBlock 0 2 0 0 [0x00, 0xb0, 0x00, 0x00])]).flatMap deviceEvents
    ∃ target, InSession (events.take 3) target ∧
      [1, 0x00, 0xb0, 0x00, 0x00].head? = some target := by
  intro events
  have hsplit : events = events.take 3 ++
      .call (.command (.xfrBlock 0 2 0 0 [0x00, 0xb0, 0x00, 0x00]))
        (.dynamic (.inDataExchange [1, 0x00, 0xb0, 0x00, 0x00]) (.ok [0x00, 0x90, 0x00])) ::
      events.drop 4 := rfl
  exact exchange_in_session _ (Machine.run_of_inputs _ _ _) (by decide) _ _ _ _ _ hsplit

end VirtualCcid.Ccid
