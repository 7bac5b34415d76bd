import VirtualCcid.Ccid.BridgeAnswers
import VirtualCcid.Runs.Monitor

/-! Card sessions as the reader sees them: when the bridge polls it and when it forwards an
APDU to it. -/
namespace VirtualCcid.Ccid
open Rust Nfc Runs

/-- A call of one of the reader's methods, with its result. -/
inductive ReaderCall where
  | pollCard (result : Except ReaderError (Option CardPresence))
  | powerOff (result : Except ReaderError Unit)
  | exchangeApdu (apdu : List UInt8) (result : Except ReaderError (List UInt8))

variable {ρ : Type*} [NfcReader ρ]

instance : NfcReader (Recorder ρ ReaderCall) where
  capabilities r := NfcReader.capabilities r.inner
  pollCard r := r.call NfcReader.pollCard .pollCard
  powerOff r := r.call NfcReader.powerOff .powerOff
  exchangeApdu r apdu := r.call (fun s => NfcReader.exchangeApdu s apdu) (.exchangeApdu apdu)

theorem pollCard_recorder {r : Recorder ρ ReaderCall} {inner : ρ}
    {result : Except ReaderError (Option CardPresence)}
    (h : NfcReader.pollCard r.inner = (result, inner)) :
    NfcReader.pollCard r = (result, ⟨inner, r.calls ++ [.pollCard result]⟩) := by
  simp [NfcReader.pollCard, Recorder.call, h]

theorem powerOff_recorder {r : Recorder ρ ReaderCall} {inner : ρ} {result : Except ReaderError Unit}
    (h : NfcReader.powerOff r.inner = (result, inner)) :
    NfcReader.powerOff r = (result, ⟨inner, r.calls ++ [.powerOff result]⟩) := by
  simp [NfcReader.powerOff, Recorder.call, h]

theorem exchangeApdu_recorder {r : Recorder ρ ReaderCall} {inner : ρ} {apdu : List UInt8}
    {result : Except ReaderError (List UInt8)}
    (h : NfcReader.exchangeApdu r.inner apdu = (result, inner)) :
    NfcReader.exchangeApdu r apdu = (result, ⟨inner, r.calls ++ [.exchangeApdu apdu result]⟩) := by
  simp [NfcReader.exchangeApdu, Recorder.call, h]

/-- The bridge with the reader calls of each step beside its output. -/
def recordedMachine (ρ : Type*) [NfcReader ρ] :
    Machine (CcidBridge (Recorder ρ ReaderCall)) BridgeInput (List ReaderCall × BridgeOutput) where
  step b i :=
    let s := (bridgeMachine _).step { b with reader := { b.reader with calls := [] } } i
    ((s.2.reader.calls, s.1), s.2)

inductive SessionEvent where
  | call (input : BridgeInput) (call : ReaderCall)
  | answered (input : BridgeInput) (output : BridgeOutput)

def sessionEvents
    (e : Event (CcidBridge (Recorder ρ ReaderCall)) BridgeInput (List ReaderCall × BridgeOutput)) :
    List SessionEvent :=
  e.output.1.map (.call e.input) ++ [.answered e.input e.output.2]

/-- A session begins at an `IccPowerOn` answered Active without error. It ends at a successful
`power_off` for an `IccPowerOff`, at an `IccPowerOn` that finds no card or fails, and at an
exchange that loses the target. -/
def sessionNext (isOpen : Bool) : SessionEvent → Bool
  | .answered input (.response (.ok r)) =>
    if input.isPowerOn ∧ r.status = .ok .active then true else isOpen
  | .call input (.powerOff (.ok ())) => if input.isPowerOff then false else isOpen
  | .call input (.pollCard (.ok none)) => if input.isPowerOn then false else isOpen
  | .call input (.pollCard (.error _)) => if input.isPowerOn then false else isOpen
  | .call _ (.exchangeApdu _ (.error (.targetLost _))) => false
  | _ => isOpen

/-- An APDU is forwarded inside a session only, and inside a session only an `IccPowerOn` polls. -/
def sessionMonitor : Monitor SessionEvent Bool where
  start := false
  next := sessionNext
  permits
    | isOpen, .call _ (.exchangeApdu ..) => isOpen = true
    | isOpen, .call input (.pollCard _) => isOpen = true → input.isPowerOn = true
    | _, _ => True

theorem sessionNext_answered {input : BridgeInput} (hi : input.isPowerOn = false) (isOpen : Bool)
    (output : BridgeOutput) : sessionNext isOpen (.answered input output) = isOpen := by
  unfold sessionNext
  split <;> simp_all

theorem sessionNext_pollCard {input : BridgeInput} (hi : input.isPowerOn = false) (isOpen : Bool)
    (result : Except ReaderError (Option CardPresence)) :
    sessionNext isOpen (.call input (.pollCard result)) = isOpen := by
  unfold sessionNext
  split <;> simp_all

def sessionOpen (events : List SessionEvent) : Bool := sessionMonitor.after false events

namespace CcidBridge
variable {b : CcidBridge (Recorder ρ ReaderCall)}

theorem refreshCardPresence_recorded (hb : b.PoweredHasCard) :
    (b.slotPowered = true ∧ b.refreshCardPresence = (.ok true, b)) ∨
      (b.slotPowered = false ∧ b.refreshCardPresence.2.slotPowered = false ∧
        ∃ result, b.refreshCardPresence.2.reader.calls = b.reader.calls ++ [.pollCard result]) := by
  rcases refreshCardPresence_cases hb with hp | ⟨hp, hp', hreader⟩
  · exact .inl hp
  · exact .inr ⟨hp, hp', _, by rw [hreader]; rfl⟩

/-- What a step shows is accepted and leaves the session open exactly if the slot is powered. -/
def Disciplined (b : CcidBridge (Recorder ρ ReaderCall)) (i : BridgeInput) : Prop :=
  let s := (bridgeMachine (Recorder ρ ReaderCall)).step b i
  let events := s.2.reader.calls.map (.call i) ++ [.answered i s.1]
  sessionMonitor.Accepts b.slotPowered events ∧
    sessionMonitor.after b.slotPowered events = s.2.slotPowered

theorem disciplined_of_silent {i : BridgeInput} (hi : i.isPowerOn = false)
    (hc : ((bridgeMachine (Recorder ρ ReaderCall)).step b i).2.reader.calls = [])
    (hp : ((bridgeMachine (Recorder ρ ReaderCall)).step b i).2.slotPowered = b.slotPowered) :
    b.Disciplined i := by
  simp [Disciplined, hc, hp, Monitor.Accepts, sessionMonitor, sessionNext_answered hi]

theorem disciplined_of_poll {i : BridgeInput} (hi : i.isPowerOn = false)
    {result : Except ReaderError (Option CardPresence)} (hb : b.slotPowered = false)
    (hc : ((bridgeMachine (Recorder ρ ReaderCall)).step b i).2.reader.calls = [.pollCard result])
    (hp : ((bridgeMachine (Recorder ρ ReaderCall)).step b i).2.slotPowered = false) :
    b.Disciplined i := by
  simp [Disciplined, hc, hp, hb, Monitor.Accepts, sessionMonitor, sessionNext_answered hi,
    sessionNext_pollCard hi]

theorem refresh_disciplined (hb : b.PoweredHasCard) (hc : b.reader.calls = []) :
    b.Disciplined .refresh := by
  rcases refreshCardPresence_recorded hb with ⟨hp, heq⟩ | ⟨hp, hp', result, hcalls⟩
  · exact disciplined_of_silent rfl (by simp [bridgeMachine, heq, hc]) (by simp [bridgeMachine, heq])
  · rw [hc] at hcalls
    exact disciplined_of_poll rfl hp hcalls hp'

theorem getSlotStatus_disciplined (hb : b.PoweredHasCard) (hc : b.reader.calls = [])
    (hn : b.readerCapabilities.name ≠ "dummy") (slot seq : UInt8) :
    b.Disciplined (.command (.getSlotStatus slot seq)) := by
  have hs := getSlotStatus_state hn slot seq
  rcases refreshCardPresence_recorded hb with ⟨hp, heq⟩ | ⟨hp, hp', result, hcalls⟩
  · exact disciplined_of_silent rfl (by simp [bridgeMachine, handleCommand, hs, heq, hc])
      (by simp [bridgeMachine, handleCommand, hs, heq])
  · exact disciplined_of_poll rfl hp (by simpa [bridgeMachine, handleCommand, hs, hc] using hcalls)
      (by simpa [bridgeMachine, handleCommand, hs] using hp')

theorem iccPowerOn_disciplined (hc : b.reader.calls = []) (slot seq powerSelect : UInt8) :
    b.Disciplined (.command (.iccPowerOn slot seq powerSelect)) := by
  obtain ⟨result, inner, hpoll⟩ :
      ∃ result inner, NfcReader.pollCard b.reader.inner = (result, inner) := ⟨_, _, rfl⟩
  unfold Disciplined
  simp only [bridgeMachine, handleCommand, iccPowerOn, pollCard_recorder hpoll, hc]
  cases result with
  | error error =>
    simp [Monitor.Accepts, sessionMonitor, sessionNext, BridgeInput.isPowerOn, CcidResponse.status,
      SlotStatus.failed, SlotStatus.ok]
  | ok found =>
    cases found with
    | none =>
      simp [Monitor.Accepts, sessionMonitor, sessionNext, BridgeInput.isPowerOn,
        CcidResponse.status, SlotStatus.failed, SlotStatus.ok]
    | some card =>
      obtain ⟨atr, ha⟩ := buildPseudoAtr_returns card
      simp [ha, Monitor.Accepts, sessionMonitor, sessionNext, BridgeInput.isPowerOn,
        CcidResponse.status, SlotStatus.ok]

theorem iccPowerOff_disciplined (hc : b.reader.calls = []) (slot seq : UInt8) :
    b.Disciplined (.command (.iccPowerOff slot seq)) := by
  obtain ⟨result, inner, hoff⟩ :
      ∃ result inner, NfcReader.powerOff b.reader.inner = (result, inner) := ⟨_, _, rfl⟩
  unfold Disciplined
  simp only [bridgeMachine, handleCommand, iccPowerOff, powerOff_recorder hoff, hc]
  cases result with
  | error error =>
    simp [Monitor.Accepts, sessionMonitor, sessionNext, BridgeInput.isPowerOn]
  | ok =>
    simp [Monitor.Accepts, sessionMonitor, sessionNext, BridgeInput.isPowerOn, BridgeInput.isPowerOff]

theorem xfrBlock_disciplined (hb : b.PoweredHasCard) (hc : b.reader.calls = [])
    (slot seq bwi : UInt8) (levelParameter : UInt16) (payload : List UInt8) :
    b.Disciplined (.command (.xfrBlock slot seq bwi levelParameter payload)) := by
  rcases xfrBlock_cases hb slot seq payload with ⟨hp, hs⟩ | ⟨hp, hp', hreader | hreader⟩
  -- A powered slot: the block is exchanged, unless the AID for the log is out of range.
  · have hcard : b.currentCard.isNone = false := by simpa using hb hp
    unfold Disciplined
    simp only [bridgeMachine, handleCommand, hs]
    obtain ⟨apdu, hn⟩ := normalizeApduForExchange_returns payload
    obtain ⟨result, inner, hx⟩ :
        ∃ result inner, NfcReader.exchangeApdu b.reader.inner apdu = (result, inner) := ⟨_, _, rfl⟩
    unfold exchangeBlock
    cases ha : selectAid payload with
    | error panic =>
      simp [hcard, hp, hc, Monitor.Accepts, sessionMonitor, sessionNext]
    | ok aid =>
      simp only [hcard, hp, hn, exchangeApdu_recorder hx, hc]
      cases result with
      | ok response =>
        simp [Monitor.Accepts, sessionMonitor, sessionNext, BridgeInput.isPowerOn]
      | error error =>
        cases error with
        | targetLost message =>
          simp [Monitor.Accepts, sessionMonitor, sessionNext, BridgeInput.isPowerOn]
        | _ =>
          simp [Monitor.Accepts, sessionMonitor, sessionNext, BridgeInput.isPowerOn]
  · exact disciplined_of_silent rfl (by simpa [bridgeMachine, handleCommand, hreader] using hc)
      (by simpa [bridgeMachine, handleCommand, hp] using hp')
  · have hcalls : (b.xfrBlock slot seq payload).2.reader.calls =
        [.pollCard (NfcReader.pollCard b.reader).1] := by
      simp [hreader, NfcReader.pollCard, Recorder.call, hc]
    exact disciplined_of_poll rfl hp hcalls hp'

/-- Every step of a bridge over a backend other than the dummy keeps the discipline. -/
theorem step_disciplined (hb : b.PoweredHasCard) (hc : b.reader.calls = [])
    (hn : b.readerCapabilities.name ≠ "dummy") (i : BridgeInput) : b.Disciplined i := by
  cases i with
  | refresh => exact refresh_disciplined hb hc
  | command c =>
    cases c with
    | iccPowerOn slot seq powerSelect => exact iccPowerOn_disciplined hc slot seq powerSelect
    | iccPowerOff slot seq => exact iccPowerOff_disciplined hc slot seq
    | getSlotStatus slot seq => exact getSlotStatus_disciplined hb hc hn slot seq
    | xfrBlock slot seq bwi levelParameter payload =>
      exact xfrBlock_disciplined hb hc slot seq bwi levelParameter payload
    | setParameters slot seq protocolNum payload =>
      refine disciplined_of_silent rfl ?_ ?_ <;>
        simp only [bridgeMachine, handleCommand, setParameters] <;> repeat' split
      all_goals first | exact hc | rfl
    | getParameters | resetParameters | abort | unknown =>
      exact disciplined_of_silent rfl hc rfl

end CcidBridge

/-- Over any backend but the dummy, whatever it returns: an APDU is forwarded inside a session
only, an open session is polled by an `IccPowerOn` only, and a powered slot has a card. -/
theorem session_discipline (reader : ρ) (hn : (NfcReader.capabilities reader).name ≠ "dummy")
    {h : List (Event (CcidBridge (Recorder ρ ReaderCall)) BridgeInput
      (List ReaderCall × BridgeOutput))} {b : CcidBridge (Recorder ρ ReaderCall)}
    (hr : Run (recordedMachine ρ) (.new ⟨reader, []⟩) h b) :
    (∀ pre input apdu result post,
        h.flatMap sessionEvents = pre ++ .call input (.exchangeApdu apdu result) :: post →
          sessionOpen pre = true) ∧
      (∀ pre input result post,
        h.flatMap sessionEvents = pre ++ .call input (.pollCard result) :: post →
          sessionOpen pre = true → input.isPowerOn = true) ∧
      (b.slotPowered = true → b.currentCard.isSome = true) := by
  have hn' : (CcidBridge.new (⟨reader, []⟩ : Recorder ρ ReaderCall)).readerCapabilities.name ≠
      "dummy" := hn
  have hacc := hr.accepted (A := fun _ => True) sessionMonitor sessionEvents
    (fun b isOpen => isOpen = b.slotPowered ∧ b.PoweredHasCard ∧
      b.readerCapabilities.name ≠ "dummy") ⟨rfl, CcidBridge.new_poweredHasCard _, hn'⟩ ?_
    fun _ _ => trivial
  · obtain ⟨hacc, _, hb, _⟩ := hacc
    refine ⟨fun pre input apdu result post hs => ?_, fun pre input result post hs => ?_, hb⟩
    · exact sessionMonitor.permits_of_accepts hacc hs
    · exact sessionMonitor.permits_of_accepts hacc hs
  · rintro b i _ ⟨rfl, hb, hname⟩ -
    let b₀ : CcidBridge (Recorder ρ ReaderCall) :=
      { b with reader := { b.reader with calls := [] } }
    obtain ⟨hacc, hpow⟩ := CcidBridge.step_disciplined (b := b₀) hb rfl hname i
    exact ⟨hacc, hpow, b₀.step_poweredHasCard hb i, (b₀.step_capabilities i).symm ▸ hname⟩

theorem session_discipline_of_fake :
    let reader : FakeReader := ⟨[.ok (some ⟨[1, 2, 3, 4], .isoDep, []⟩)], [], []⟩
    let M := recordedMachine FakeReader
    let inputs : List BridgeInput := [.command (.iccPowerOn 0 1 0),
      .command (.xfrBlock 0 2 0 0 [0x00, 0xb0, 0x00, 0x00]), .refresh,
      .command (.iccPowerOff 0 3), .refresh]
    let h := M.history (.new ⟨reader, []⟩) inputs
    (∀ pre input apdu result post,
        h.flatMap sessionEvents = pre ++ .call input (.exchangeApdu apdu result) :: post →
          sessionOpen pre = true) ∧
      (∀ pre input result post,
        h.flatMap sessionEvents = pre ++ .call input (.pollCard result) :: post →
          sessionOpen pre = true → input.isPowerOn = true) ∧
      ((M.final (.new ⟨reader, []⟩) inputs).slotPowered = true →
        (M.final (.new ⟨reader, []⟩) inputs).currentCard.isSome = true) :=
  session_discipline _ (by decide) (Machine.run_of_inputs _ _ _)

end VirtualCcid.Ccid
