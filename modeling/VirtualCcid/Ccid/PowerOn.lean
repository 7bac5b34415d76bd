import VirtualCcid.Ccid.Reselection

/-! What a power-on leaves of the exchanges before it. It polls the reader and nothing else, so
a card is fresh only if the reader has been powered off since, or polls the device anew. -/
namespace VirtualCcid.Ccid
open Rust Nfc Runs

def BridgeInput.isXfrBlock : BridgeInput → Bool
  | .command (.xfrBlock ..) => true
  | _ => false

theorem eq_iccPowerOff {i : BridgeInput} (h : i.isPowerOff = true) :
    ∃ slot seq, i = .command (.iccPowerOff slot seq) := by
  unfold BridgeInput.isPowerOff at h
  split at h
  · exact ⟨_, _, rfl⟩
  · cases h

/-- Whether an event `marks` since the last `IccPowerOff`. -/
def sincePowerOff {σ ο : Type*} (marks : Event σ BridgeInput ο → Bool)
    (h : List (Event σ BridgeInput ο)) : Bool :=
  h.foldl (fun marked e => if e.input.isPowerOff then false else marked || marks e) false

theorem sincePowerOff_append {σ ο : Type*} (marks : Event σ BridgeInput ο → Bool)
    (h : List (Event σ BridgeInput ο)) (e : Event σ BridgeInput ο) :
    sincePowerOff marks (h ++ [e]) =
      if e.input.isPowerOff then false else sincePowerOff marks h || marks e := by
  simp [sincePowerOff]

section Dummy

theorem pollCard_dummy (r : DummyReader) : (NfcReader.pollCard r).2 = r := by
  simp only [NfcReader.pollCard]
  split <;> rfl

theorem step_dummy {b : CcidBridge DummyReader} (hb : b.PoweredHasCard) {i : BridgeInput}
    (hx : i.isXfrBlock = false) (hoff : i.isPowerOff = false) :
    ((bridgeMachine DummyReader).step b i).2.reader = b.reader := by
  have hrefresh : b.refreshCardPresence.2.reader = b.reader := by
    rcases CcidBridge.refreshCardPresence_cases hb with ⟨_, heq⟩ | ⟨_, _, hreader⟩
    · rw [heq]
    · rw [hreader, pollCard_dummy]
  cases i with
  | refresh => exact hrefresh
  | command c =>
    cases c with
    | iccPowerOn slot seq powerSelect =>
      exact (b.iccPowerOn_reader slot seq).trans (pollCard_dummy b.reader)
    | iccPowerOff => simp [BridgeInput.isPowerOff] at hoff
    | getSlotStatus slot seq => exact (b.getSlotStatus_reader slot seq).trans hrefresh
    | xfrBlock => simp [BridgeInput.isXfrBlock] at hx
    | setParameters slot seq protocolNum payload =>
      exact b.setParameters_reader slot seq protocolNum payload
    | getParameters | resetParameters | abort | unknown => rfl

theorem run_dummy {h : List (Event (CcidBridge DummyReader) BridgeInput BridgeOutput)}
    {b : CcidBridge DummyReader}
    (hr : Run (bridgeMachine DummyReader) (.new DummyReader.opened) h b)
    (hx : sincePowerOff (fun e => e.input.isXfrBlock) h = false) :
    b.reader.selectedApplet = .none := by
  have hinv := hr.invariant (A := fun _ => True)
    (P := fun h b => b.PoweredHasCard ∧ (sincePowerOff (fun e => e.input.isXfrBlock) h = false →
      b.reader.selectedApplet = .none))
    ⟨CcidBridge.new_poweredHasCard _, fun _ => rfl⟩ ?_ fun _ _ => trivial
  · exact hinv.2 hx
  rintro h b i ⟨hb, ih⟩ -
  refine ⟨CcidBridge.step_poweredHasCard hb i, fun hx => ?_⟩
  rw [sincePowerOff_append] at hx
  cases hoff : i.isPowerOff with
  | true =>
    obtain ⟨slot, seq, rfl⟩ := eq_iccPowerOff hoff
    exact congrArg DummyReader.selectedApplet (b.iccPowerOff_reader slot seq)
  | false =>
    obtain ⟨hx', hi⟩ : sincePowerOff (fun e => e.input.isXfrBlock) h = false ∧
        i.isXfrBlock = false := by
      simpa [Machine.event, hoff] using hx
    exact (congrArg DummyReader.selectedApplet (step_dummy hb hi hoff)).trans (ih hx')

end Dummy

section Pn532
variable {δ : Type*} [Pn532Device δ]

/-- The activation last named since the last exchange. -/
def freshAfter (fresh : Option (UInt8 × CardPresence)) : List DeviceCall →
    Option (UInt8 × CardPresence)
  | [] => fresh
  | .dynamic .inListOneIsoATarget result :: calls => freshAfter (namedTarget fresh result) calls
  | .dynamic (.inDataExchange _) _ :: calls => freshAfter none calls
  | _ :: calls => freshAfter fresh calls

theorem freshAfter_append (fresh : Option (UInt8 × CardPresence)) (cs ds : List DeviceCall) :
    freshAfter fresh (cs ++ ds) = freshAfter (freshAfter fresh cs) ds := by
  induction cs generalizing fresh with
  | nil => rfl
  | cons c cs ih =>
    match c with
    | .dynamic .inListOneIsoATarget _ | .dynamic (.inDataExchange _) _
    | .dynamic (.rfConfiguration _) _ | .process _ _ => exact ih _

theorem freshAfter_of_no_exchange {cs : List DeviceCall} (h : ∀ c ∈ cs, c.isExchange = false)
    (fresh : Option (UInt8 × CardPresence)) : freshAfter fresh cs = knownAfter fresh cs := by
  induction cs generalizing fresh with
  | nil => rfl
  | cons c cs ih =>
    have ih := fun fresh => ih (fun d hd => h d (by simp [hd])) fresh
    have hc := h c (by simp)
    match c with
    | .dynamic (.inDataExchange _) _ => simp [DeviceCall.isExchange] at hc
    | .dynamic .inListOneIsoATarget _ | .dynamic (.rfConfiguration _) _ | .process _ _ =>
      exact ih _

def deviceCalls
    (h : List (Event (CcidBridge (Pn532UartReader (RecordedDevice δ))) BridgeInput
      (List DeviceCall × BridgeOutput))) : List DeviceCall :=
  h.flatMap fun e => e.output.1

def exchangesData
    (e : Event (CcidBridge (Pn532UartReader (RecordedDevice δ))) BridgeInput
      (List DeviceCall × BridgeOutput)) : Bool :=
  e.output.1.any DeviceCall.isExchange

theorem run_pn532 (device : δ)
    {h : List (Event (CcidBridge (Pn532UartReader (RecordedDevice δ))) BridgeInput
      (List DeviceCall × BridgeOutput))} {b : CcidBridge (Pn532UartReader (RecordedDevice δ))}
    (hr : Run (deviceMachine δ) (.new (.opened ⟨device, []⟩)) h b) :
    b.PoweredHasCard ∧ (sincePowerOff exchangesData h = false →
      b.reader.Agrees (freshAfter none (deviceCalls h))) := by
  refine hr.invariant (A := fun _ => True)
    (P := fun h b => b.PoweredHasCard ∧ (sincePowerOff exchangesData h = false →
      b.reader.Agrees (freshAfter none (deviceCalls h))))
    ⟨CcidBridge.new_poweredHasCard _, fun _ target h => ?_⟩ ?_ fun _ _ => trivial
  · simp [CcidBridge.new, Pn532UartReader.opened] at h
  rintro h b i ⟨hb, ih⟩ -
  let b₀ : CcidBridge (Pn532UartReader (RecordedDevice δ)) :=
    { b with reader := { b.reader with pn532 := { b.reader.pn532 with calls := [] } } }
  refine ⟨CcidBridge.step_poweredHasCard (b := b₀) hb i, fun hx => ?_⟩
  obtain ⟨cs, hf⟩ := CcidBridge.step_follows (b := b₀) hb i
  have hcalls : ((deviceMachine δ).event b i).output.1 = cs := hf.calls
  rw [sincePowerOff_append] at hx
  cases hoff : i.isPowerOff with
  | true =>
    obtain ⟨slot, seq, rfl⟩ := eq_iccPowerOff hoff
    obtain ⟨_, _, _, hnone⟩ := b₀.reader.powerOff_recorded
    have hnone' :
        (((bridgeMachine _).step b₀ (.command (.iccPowerOff slot seq))).2.reader).activeTarget =
          none :=
      (congrArg Pn532UartReader.activeTarget (b₀.iccPowerOff_reader slot seq)).trans hnone
    intro target h
    exact absurd (hnone'.symm.trans h) (by simp)
  | false =>
    have hmark : exchangesData ((deviceMachine δ).event b i) = cs.any DeviceCall.isExchange := by
      rw [exchangesData, hcalls]
    obtain ⟨hx', hcs⟩ : sincePowerOff exchangesData h = false ∧ ∀ c ∈ cs, c.isExchange = false := by
      rw [hmark] at hx
      simpa [Machine.event, hoff] using hx
    have hd : deviceCalls (h ++ [(deviceMachine δ).event b i]) = deviceCalls h ++ cs := by
      simp [deviceCalls, hcalls]
    rw [hd, freshAfter_append, freshAfter_of_no_exchange hcs]
    exact hf.agrees _ (ih hx')

end Pn532

theorem eq_iccPowerOn {i : BridgeInput} (h : i.isPowerOn = true) :
    ∃ slot seq powerSelect, i = .command (.iccPowerOn slot seq powerSelect) := by
  unfold BridgeInput.isPowerOn at h
  split at h
  · exact ⟨_, _, _, rfl⟩
  · cases h

theorem iccPowerOn_active {ρ : Type*} [NfcReader ρ] {b : CcidBridge ρ} {slot seq : UInt8}
    {r : CcidResponse} (h : (b.iccPowerOn slot seq).1 = .ok r) (hs : r.status = .ok .active) :
    ∃ card, (NfcReader.pollCard b.reader).1 = .ok (some card) := by
  unfold CcidBridge.iccPowerOn at h
  split at h
  · next card _ heq => exact ⟨card, congrArg Prod.fst heq⟩
  · obtain rfl := Except.ok.inj h
    simp [CcidResponse.status, SlotStatus.ok, SlotStatus.failed] at hs
  · obtain rfl := Except.ok.inj h
    simp [CcidResponse.status, SlotStatus.ok, SlotStatus.failed] at hs

theorem ctapMsg_refused {r : DummyReader} (hp : r.cardPresent = true)
    (hs : r.selectedApplet = .none) {apdu data : List UInt8} {p1 p2 : UInt8}
    (h : DummyReader.parseShortApdu apdu = some (0x80, fidoNfcctapMsg, p1, p2, data)) :
    r.handleApdu apdu = (.ok swInsNotSupported, r) := by
  have hi : fidoNfcctapMsg ≠ 0xa4 := by decide
  simp [DummyReader.handleApdu, hp, h, hs]

variable {δ : Type*} [Pn532Device δ]

def AnsweredActive (i : BridgeInput) (output : BridgeOutput) : Prop :=
  i.isPowerOn = true ∧ ∃ r, output = .response (.ok r) ∧ r.status = .ok .active

/-- Over the dummy a power-on leaves the selection, which is none after a power-off. -/
theorem power_on_dummy
    {h pre post : List (Event (CcidBridge DummyReader) BridgeInput BridgeOutput)}
    {e : Event (CcidBridge DummyReader) BridgeInput BridgeOutput} {b : CcidBridge DummyReader}
    (hr : Run (bridgeMachine DummyReader) (.new DummyReader.opened) h b)
    (hs : h = pre ++ e :: post) (hactive : AnsweredActive e.input e.output) :
    e.after.reader.selectedApplet = e.before.reader.selectedApplet ∧
      (sincePowerOff (fun d => d.input.isXfrBlock) pre = false →
        e.after.reader.selectedApplet = .none ∧
          ∀ apdu p1 p2 data,
            DummyReader.parseShortApdu apdu = some (0x80, fidoNfcctapMsg, p1, p2, data) →
              (e.after.reader.handleApdu apdu).1 = .ok swInsNotSupported) := by
  obtain ⟨hpre, heq⟩ := hr.split hs
  obtain ⟨hon, r, hout, hstatus⟩ := hactive
  obtain ⟨slot, seq, powerSelect, hi⟩ := eq_iccPowerOn hon
  rw [hi] at heq
  have hreader : e.after.reader = e.before.reader := by
    rw [heq]
    exact (e.before.iccPowerOn_reader slot seq).trans (pollCard_dummy _)
  have hanswer : (e.before.iccPowerOn slot seq).1 = .ok r := by
    rw [heq] at hout
    exact BridgeOutput.response.inj hout
  obtain ⟨card, hcard⟩ := iccPowerOn_active hanswer hstatus
  have hp : e.after.reader.cardPresent = true := by
    by_contra hp
    rw [hreader] at hp
    simp [NfcReader.pollCard, hp] at hcard
  refine ⟨congrArg _ hreader, fun hx => ?_⟩
  have hnone : e.after.reader.selectedApplet = .none := by
    rw [hreader]
    exact run_dummy hpre hx
  refine ⟨hnone, fun apdu p1 p2 data h => ?_⟩
  rw [ctapMsg_refused hp hnone h]

/-- Over the PN532 a power-on that sends a command names the active target anew, and one that
sends none leaves it. -/
theorem power_on_pn532 (device : δ)
    {h pre post : List (Event (CcidBridge (Pn532UartReader (RecordedDevice δ))) BridgeInput
      (List DeviceCall × BridgeOutput))}
    {e : Event (CcidBridge (Pn532UartReader (RecordedDevice δ))) BridgeInput
      (List DeviceCall × BridgeOutput)}
    {b : CcidBridge (Pn532UartReader (RecordedDevice δ))}
    (hr : Run (deviceMachine δ) (.new (.opened ⟨device, []⟩)) h b)
    (hs : h = pre ++ e :: post) (hactive : AnsweredActive e.input e.output.2) :
    ∃ target, e.after.reader.activeTarget = some target ∧
      (e.output.1 ≠ [] ∨ sincePowerOff exchangesData pre = false →
        ∃ card, freshAfter none (deviceCalls (pre ++ [e])) = some (target, card)) ∧
      (e.output.1 = [] → e.before.reader.activeTarget = some target) := by
  obtain ⟨hpre, heq⟩ := hr.split hs
  obtain ⟨hon, r, hout, hstatus⟩ := hactive
  obtain ⟨slot, seq, powerSelect, hi⟩ := eq_iccPowerOn hon
  rw [hi] at heq
  let b₀ : CcidBridge (Pn532UartReader (RecordedDevice δ)) :=
    { e.before with reader := { e.before.reader with
        pn532 := { e.before.reader.pn532 with calls := [] } } }
  have hreader : e.after.reader = b₀.reader.pollCard.2 := by
    rw [heq]
    exact b₀.iccPowerOn_reader slot seq
  have hanswer : (b₀.iccPowerOn slot seq).1 = .ok r := by
    rw [heq] at hout
    exact BridgeOutput.response.inj hout
  obtain ⟨card, hcard⟩ := iccPowerOn_active hanswer hstatus
  obtain ⟨cs, hf, hx, hreport⟩ := b₀.reader.pollCard_recorded
  obtain ⟨⟨target, htarget⟩, hcached, hsource⟩ := hreport card hcard
  have hcalls : e.output.1 = cs := by
    rw [heq]
    exact (congrArg (fun r => r.pn532.calls) (b₀.iccPowerOn_reader slot seq)).trans hf.calls
  refine ⟨target, hreader ▸ htarget, ?_, ?_⟩
  · intro hfresh
    have hd : deviceCalls (pre ++ [e]) = deviceCalls pre ++ cs := by
      simp [deviceCalls, hcalls]
    have hagree : b₀.reader.pollCard.2.Agrees (freshAfter none (deviceCalls (pre ++ [e]))) := by
      rw [hd, freshAfter_append, freshAfter_of_no_exchange hx]
      rcases hfresh with hreached | hcold
      · rcases hsource with ⟨hnil, _⟩ | hnamed
        · exact absurd (hcalls.trans hnil) hreached
        · exact hnamed _
      · have hbefore := (run_pn532 device hpre).2 hcold
        exact hf.agrees _ hbefore
    obtain ⟨card', _, hnamed⟩ := hagree target htarget
    exact ⟨card', hnamed⟩
  · intro hnil
    rcases hsource with ⟨_, hsame⟩ | hnamed
    · exact hsame.symm.trans htarget
    · obtain ⟨card', _, h⟩ := hnamed none target htarget
      rw [← hcalls, hnil] at h
      cases h

/-- Right after a power-on answered Active. Over the dummy no applet is selected if no block was
handled since the last power-off; otherwise the selection stays. Over the PN532 the active target
was named after the last exchange if none was made since the last power-off or if the power-on
reached the device; otherwise it was answered from the cache, with the target it had. -/
theorem power_on_freshness (device : δ) :
    (∀ h b, Run (bridgeMachine DummyReader) (.new DummyReader.opened) h b →
      ∀ pre e post, h = pre ++ e :: post → AnsweredActive e.input e.output →
        e.after.reader.selectedApplet = e.before.reader.selectedApplet ∧
          (sincePowerOff (fun d => d.input.isXfrBlock) pre = false →
            e.after.reader.selectedApplet = .none ∧
              ∀ apdu p1 p2 data,
                DummyReader.parseShortApdu apdu = some (0x80, fidoNfcctapMsg, p1, p2, data) →
                  (e.after.reader.handleApdu apdu).1 = .ok swInsNotSupported)) ∧
      ∀ h b, Run (deviceMachine δ) (.new (.opened ⟨device, []⟩)) h b →
        ∀ pre e post, h = pre ++ e :: post → AnsweredActive e.input e.output.2 →
          ∃ target, e.after.reader.activeTarget = some target ∧
            (e.output.1 ≠ [] ∨ sincePowerOff exchangesData pre = false →
              ∃ card, freshAfter none (deviceCalls (pre ++ [e])) = some (target, card)) ∧
            (e.output.1 = [] → e.before.reader.activeTarget = some target) := by
  constructor
  · intro h b hr pre e post hs hactive
    exact power_on_dummy hr hs hactive
  · intro h b hr pre e post hs hactive
    exact power_on_pn532 device hr hs hactive

def selectFido : List UInt8 := [0x00, 0xa4, 0x04, 0x00, 0x08] ++ fidoAid

def warmInputs : List BridgeInput :=
  [.command (.iccPowerOn 0 1 0), .command (.xfrBlock 0 2 0 0 selectFido),
    .command (.iccPowerOn 0 3 0)]

def oneListing : ScriptedDevice where
  processResults := []
  answers := [.ok [1, 1, 0x00, 0x04, 0x20, 1, 0xaa], .ok [0x00, 0x90, 0x00]]

/-- A warm power-on keeps the applet of the dummy, and the target of a PN532 polled just before. -/
theorem warm_power_on_keeps_session :
    ¬ (∀ h b, Run (bridgeMachine DummyReader) (.new DummyReader.opened) h b →
      ∀ pre e post, h = pre ++ e :: post → AnsweredActive e.input e.output →
        e.after.reader.selectedApplet = .none) ∧
      ¬ ∀ h b, Run (deviceMachine ScriptedDevice) (.new (.opened ⟨oneListing, []⟩)) h b →
        ∀ pre e post, h = pre ++ e :: post → AnsweredActive e.input e.output.2 →
          ∃ target card, e.after.reader.activeTarget = some target ∧
            freshAfter none (deviceCalls (pre ++ [e])) = some (target, card) := by
  constructor
  · intro hall
    let h := (bridgeMachine DummyReader).history (.new DummyReader.opened) warmInputs
    have hsplit : h = h.take 2 ++ h.get ⟨2, by decide⟩ :: [] := rfl
    have hnone := hall h _ (Machine.run_of_inputs _ _ _) _ _ _ hsplit ⟨rfl, _, rfl, rfl⟩
    exact absurd hnone (by decide)
  · intro hall
    let h := (deviceMachine ScriptedDevice).history (.new (.opened ⟨oneListing, []⟩)) warmInputs
    have hsplit : h = h.take 2 ++ h.get ⟨2, by decide⟩ :: [] := rfl
    obtain ⟨target, card, _, hfresh⟩ :=
      hall h _ (Machine.run_of_inputs _ _ _) _ _ _ hsplit ⟨rfl, _, rfl, rfl⟩
    have hnone : freshAfter none (deviceCalls (h.take 2 ++ [h.get ⟨2, by decide⟩])) = none := rfl
    rw [hnone] at hfresh
    cases hfresh

/-- A session with an exchange, up to its power-off. -/
def sessionInputs : List BridgeInput :=
  [.command (.iccPowerOn 0 1 0), .command (.xfrBlock 0 2 0 0 selectFido),
    .command (.iccPowerOff 0 3)]

def twoListings : ScriptedDevice :=
  { oneListing with answers := oneListing.answers ++ [.ok [1, 2, 0x00, 0x04, 0x20, 1, 0xaa]] }

theorem power_on_freshness_of_cold :
    let M := bridgeMachine DummyReader
    let N := deviceMachine ScriptedDevice
    let d := M.event (M.final (.new DummyReader.opened) sessionInputs)
      (.command (.iccPowerOn 0 4 0))
    let h := N.history (.new (.opened ⟨twoListings, []⟩)) sessionInputs
    let e := N.event (N.final (.new (.opened ⟨twoListings, []⟩)) sessionInputs)
      (.command (.iccPowerOn 0 4 0))
    d.after.reader.selectedApplet = .none ∧
      ∃ target, e.after.reader.activeTarget = some target ∧
        ∃ card, freshAfter none (deviceCalls (h ++ [e])) = some (target, card) := by
  intro M N d h e
  have hd := (power_on_freshness twoListings).1 _ _
    ((M.run_of_inputs (.new DummyReader.opened) sessionInputs).step d.input)
    (M.history (.new DummyReader.opened) sessionInputs) d [] rfl ⟨rfl, _, rfl, rfl⟩
  obtain ⟨target, htarget, hfresh, _⟩ := (power_on_freshness twoListings).2 _ _
    ((N.run_of_inputs (.new (.opened ⟨twoListings, []⟩)) sessionInputs).step e.input)
    h e [] rfl ⟨rfl, _, rfl, rfl⟩
  exact ⟨(hd.2 rfl).1, target, htarget, hfresh (.inr rfl)⟩

end VirtualCcid.Ccid
