import VirtualCcid.Ccid.Calls
import VirtualCcid.Ccid.PowerOn

/-! The card of the dummy backend, as a host sees it through the bridge: a CTAP message reaches the
applet exactly if the host has powered the slot and selected the applet, and has given up neither
since. -/
namespace VirtualCcid.Nfc.DummyReader
open Rust

/-- What an APDU makes of the selection, if it is one about it. -/
def selection (header : UInt8 × UInt8 × UInt8 × UInt8 × List UInt8) : Option SelectedApplet :=
  let (cla, ins, p1, p2, data) := header
  if cla = 0x00 ∧ ins = 0xa4 ∧ p1 = 0x04 ∧ (p2 = 0x00 ∨ p2 = 0x0c) ∧ data = fidoAid then some .fido
  else if cla = 0x80 ∧ ins = fidoNfcctapControl ∧ p1 = fidoNfcEndCtapMsg ∧ p2 = 0x00 then some .none
  else none

theorem handleApdu_selection {r : DummyReader} (hp : r.cardPresent = true) (apdu : List UInt8) :
    (∃ response, (r.handleApdu apdu).1 = .ok response) ∧
      (r.handleApdu apdu).2.cardPresent = true ∧
      (r.handleApdu apdu).2.selectedApplet =
        ((parseShortApdu apdu).bind selection).getD r.selectedApplet := by
  unfold handleApdu
  rw [if_neg (by simp [hp])]
  cases parseShortApdu apdu with
  | none => exact ⟨⟨_, rfl⟩, hp, rfl⟩
  | some header =>
    obtain ⟨cla, ins, p1, p2, data⟩ := header
    simp only [Option.bind_some, selection]
    by_cases hselect : cla = 0x00 ∧ ins = 0xa4 ∧ p1 = 0x04 ∧ (p2 = 0x00 ∨ p2 = 0x0c) ∧ data = fidoAid
    · have hselect' : (cla = 0x00 ∧ ins = 0xa4 ∧ p1 = 0x04 ∧ (p2 = 0x00 ∨ p2 = 0x0c)) ∧
          data = fidoAid := by
        simpa only [and_assoc] using hselect
      rw [if_pos hselect, if_pos hselect']
      exact ⟨⟨_, rfl⟩, hp, rfl⟩
    have hselect' : ¬ ((cla = 0x00 ∧ ins = 0xa4 ∧ p1 = 0x04 ∧ (p2 = 0x00 ∨ p2 = 0x0c)) ∧
        data = fidoAid) := by
      simpa only [and_assoc] using hselect
    rw [if_neg hselect, if_neg hselect']
    by_cases hends : cla = 0x80 ∧ ins = fidoNfcctapControl ∧ p1 = fidoNfcEndCtapMsg ∧ p2 = 0x00
    · obtain ⟨rfl, rfl, rfl, rfl⟩ := hends
      by_cases hs : r.selectedApplet = .fido
      · refine ⟨⟨swSuccess, ?_⟩, ?_, ?_⟩
        all_goals simp [hs, hp, show fidoNfcctapControl ≠ fidoNfcctapMsg by decide,
          show fidoNfcctapControl ≠ fidoNfcctapGetResponse by decide]
      · have hnone : r.selectedApplet = .none := by
          cases hr : r.selectedApplet with
          | none => rfl
          | fido => exact absurd hr hs
        refine ⟨⟨swInsNotSupported, ?_⟩, ?_, ?_⟩
        all_goals simp [hnone, hp]
    · rw [if_neg hends]
      repeat' split
      all_goals first
        | exact ⟨⟨_, rfl⟩, hp, rfl⟩
        | next h => exact absurd ⟨h.1, h.2.1, h.2.2.1, h.2.2.2.1⟩ hends

theorem handleApdu_ctapMsg {r : DummyReader} (hp : r.cardPresent = true) {apdu : List UInt8}
    {p1 : UInt8} {data : List UInt8}
    (h : parseShortApdu apdu = some (0x80, fidoNfcctapMsg, p1, 0x00, data)) :
    (r.handleApdu apdu).1 = .ok
      (if r.selectedApplet = .fido then handleCtapMsg p1 data else swInsNotSupported) := by
  have hi : fidoNfcctapMsg ≠ 0xa4 := by decide
  by_cases hs : r.selectedApplet = .fido
  · simp [handleApdu, hp, h, hs]
  · simp [handleApdu, hp, h, hs, hi]

theorem ins_of_parse {apdu : List UInt8} {cla ins p1 p2 : UInt8} {data : List UInt8}
    (h : parseShortApdu apdu = some (cla, ins, p1, p2, data)) : apdu[1]? = some ins := by
  unfold parseShortApdu at h
  split at h
  · cases h
  next hlen =>
  rw [List.getElem?_eq_getElem (by omega)]
  dsimp only at h
  split at h
  · cases h
    rfl
  · cases h
    rfl
  · split at h
    · cases h
    · cases h
      rfl

theorem selection_normalized {payload apdu : List UInt8}
    (h : Ccid.CcidBridge.normalizeApduForExchange payload = .ok apdu) :
    (parseShortApdu apdu).bind selection = (parseShortApdu payload).bind selection := by
  have hapdu := Ccid.CcidBridge.normalizeApduForExchange_ok h
  by_cases hins : payload[1]? = some Ccid.apduGetResponseIns
  · have hnone : ∀ apdu : List UInt8, apdu[1]? = some Ccid.apduGetResponseIns →
        (parseShortApdu apdu).bind selection = none := by
      intro apdu hins
      cases hparse : parseShortApdu apdu with
      | none => rfl
      | some header =>
        obtain ⟨cla, ins, p1, p2, data⟩ := header
        rw [ins_of_parse hparse] at hins
        obtain rfl := Option.some.inj hins
        simp [selection, show Ccid.apduGetResponseIns ≠ 0xa4 by decide,
          show Ccid.apduGetResponseIns ≠ fidoNfcctapControl by decide]
    rw [if_pos hins] at hapdu
    have hset : (payload.set 0 0x00)[1]? = payload[1]? := List.getElem?_set_ne (by omega)
    rw [hnone payload hins, hnone apdu (by rw [hapdu, hset, hins])]
  · rw [if_neg hins] at hapdu
    rw [hapdu]

end VirtualCcid.Nfc.DummyReader

namespace VirtualCcid.Ccid
open Rust Nfc Runs

/-- What a host sees of the bridge: an input and its answer. -/
abbrev BridgeSight := BridgeInput × BridgeOutput

/-- The selection made by a block that is answered with data. -/
def selects : BridgeSight → Option SelectedApplet
  | (.command (.xfrBlock _ _ _ _ payload), .response (.ok (.dataBlock ..))) =>
    (DummyReader.parseShortApdu payload).bind DummyReader.selection
  | _ => none

/-- The dummy is always ready: asking for its status powers the slot as well. -/
def powers : BridgeSight → Option Bool
  | (.command (.iccPowerOn ..), _) | (.command (.getSlotStatus ..), _) => some true
  | (.command (.iccPowerOff ..), _) => some false
  | _ => none

/-- The applet was selected, and since then neither was the card powered off nor the selection
ended. -/
def AppletSelected (sights : List BridgeSight) : Prop :=
  Held selects (fun sight => sight.1.isPowerOff) sights .fido

/-- The slot was powered, and not powered off since. -/
def SlotPowered (sights : List BridgeSight) : Prop :=
  Held powers (fun _ => false) sights true

/-- The bridge over a dummy whose card is there. -/
structure CcidBridge.HoldsDummy (b : CcidBridge DummyReader) : Prop where
  present : b.reader.cardPresent = true
  name : b.readerCapabilities.name = "dummy"
  poweredHasCard : b.PoweredHasCard

namespace CcidBridge
variable {b : CcidBridge DummyReader}

theorem HoldsDummy.refresh (hb : b.HoldsDummy) :
    ∃ card, b.refreshCardPresence = (.ok true, { b with currentCard := some card }) := by
  unfold refreshCardPresence
  by_cases hc : b.slotPowered = true ∧ b.currentCard.isSome = true
  · obtain ⟨card, hcard⟩ := Option.isSome_iff_exists.mp hc.2
    refine ⟨card, ?_⟩
    rw [if_pos hc, ← hcard]
  · rw [if_neg hc]
    simp only [NfcReader.pollCard, hb.present, if_true]
    exact ⟨_, rfl⟩

theorem HoldsDummy.powerOn (hb : b.HoldsDummy) (slot seq : UInt8) :
    ∃ card response, b.iccPowerOn slot seq =
      (.ok response, { b with currentCard := some card, slotPowered := true }) := by
  unfold iccPowerOn
  simp only [NfcReader.pollCard, hb.present, if_true]
  exact ⟨_, _, rfl⟩

theorem HoldsDummy.status (hb : b.HoldsDummy) (slot seq : UInt8) :
    ∃ card, (b.getSlotStatus slot seq).2 =
      { b with currentCard := some card, slotPowered := true } := by
  obtain ⟨card, hrefresh⟩ := hb.refresh
  refine ⟨card, ?_⟩
  simp [getSlotStatus, hrefresh, hb.name]

theorem HoldsDummy.block (hb : b.HoldsDummy) (slot seq : UInt8) (payload : List UInt8) :
    ∃ card,
      (b.slotPowered = false ∧ b.xfrBlock slot seq payload =
        (.ok (.slotStatus slot seq (.failed .inactive) genericFailureError 0),
          { b with currentCard := some card })) ∨
      (b.slotPowered = true ∧ SelectOverruns payload ∧ ∃ panic,
        b.xfrBlock slot seq payload = (.error panic, { b with currentCard := some card })) ∨
      (b.slotPowered = true ∧ ¬ SelectOverruns payload ∧ ∃ apdu response,
        normalizeApduForExchange payload = .ok apdu ∧
          (b.reader.handleApdu apdu).1 = .ok response ∧ b.xfrBlock slot seq payload =
            (.ok (.dataBlock slot seq (.ok .active) 0 0 response),
              { b with currentCard := some card, reader := (b.reader.handleApdu apdu).2 })) := by
  have hexchange : ∃ card, b.xfrBlock slot seq payload =
      ({ b with currentCard := some card } : CcidBridge DummyReader).exchangeBlock slot seq
        payload := by
    unfold xfrBlock
    cases hcard : b.currentCard with
    | some card =>
      refine ⟨card, ?_⟩
      rw [← hcard, if_neg (by simp [hcard])]
    | none =>
      obtain ⟨card, hrefresh⟩ := hb.refresh
      refine ⟨card, ?_⟩
      simp [hrefresh]
  obtain ⟨card, hexchange⟩ := hexchange
  refine ⟨card, ?_⟩
  have hreturns := selectAid_returns_iff payload
  rw [hexchange]
  unfold exchangeBlock
  cases hp : b.slotPowered with
  | false =>
    left
    exact ⟨rfl, by simp⟩
  | true =>
    right
    obtain ⟨apdu, hn⟩ := normalizeApduForExchange_returns payload
    obtain ⟨⟨response, hresponse⟩, -⟩ := DummyReader.handleApdu_selection hb.present apdu
    cases hselect : selectAid payload with
    | error panic =>
      rw [hselect] at hreturns
      left
      exact ⟨rfl, by simpa using hreturns, panic, by simp⟩
    | ok aid =>
      rw [hselect] at hreturns
      right
      refine ⟨rfl, by simpa using hreturns, apdu, response, hn, hresponse, ?_⟩
      have hexchange : NfcReader.exchangeApdu b.reader apdu =
          (.ok response, (b.reader.handleApdu apdu).2) :=
        Prod.ext hresponse rfl
      simp [hn, hexchange]

theorem HoldsDummy.step (hb : b.HoldsDummy) (i : BridgeInput) :
    let e := (bridgeMachine DummyReader).event b i
    e.after.HoldsDummy ∧
      e.after.slotPowered = (powers (e.input, e.output)).getD b.slotPowered ∧
      e.after.reader.selectedApplet = (selects (e.input, e.output)).getD
        (if i.isPowerOff then .none else b.reader.selectedApplet) := by
  intro e
  have hpowered : e.after.PoweredHasCard := step_poweredHasCard hb.poweredHasCard i
  have hsettled {b' : CcidBridge DummyReader} (hafter : e.after = b')
      (hpresent : b'.reader.cardPresent = true)
      (hname : b'.readerCapabilities = b.readerCapabilities)
      (hpower : b'.slotPowered = (powers (e.input, e.output)).getD b.slotPowered)
      (happlet : b'.reader.selectedApplet = (selects (e.input, e.output)).getD
        (if i.isPowerOff then .none else b.reader.selectedApplet)) :
      e.after.HoldsDummy ∧
        e.after.slotPowered = (powers (e.input, e.output)).getD b.slotPowered ∧
        e.after.reader.selectedApplet = (selects (e.input, e.output)).getD
          (if i.isPowerOff then .none else b.reader.selectedApplet) := by
    subst hafter
    exact ⟨⟨hpresent, hname ▸ hb.name, hpowered⟩, hpower, happlet⟩
  cases i with
  | refresh =>
    obtain ⟨card, hrefresh⟩ := hb.refresh
    have hafter : e.after = { b with currentCard := some card } := congrArg Prod.snd hrefresh
    exact hsettled hafter hb.present rfl rfl rfl
  | command c =>
    cases c with
    | iccPowerOn slot seq powerSelect =>
      obtain ⟨card, response, hon⟩ := hb.powerOn slot seq
      have hafter : e.after = { b with currentCard := some card, slotPowered := true } :=
        congrArg Prod.snd hon
      exact hsettled hafter hb.present rfl rfl rfl
    | iccPowerOff slot seq => exact hsettled rfl hb.present rfl rfl rfl
    | getSlotStatus slot seq =>
      obtain ⟨card, hstatus⟩ := hb.status slot seq
      have hafter : e.after = { b with currentCard := some card, slotPowered := true } := hstatus
      exact hsettled hafter hb.present rfl rfl rfl
    | xfrBlock slot seq bwi levelParameter payload =>
      have houtput : e.output = .response (b.xfrBlock slot seq payload).1 := rfl
      have hafter : e.after = (b.xfrBlock slot seq payload).2 := rfl
      obtain ⟨card, ⟨-, heq⟩ | ⟨-, -, panic, heq⟩ | ⟨-, -, apdu, response, hn, -, heq⟩⟩ :=
        hb.block slot seq payload
      · rw [heq] at houtput hafter
        exact hsettled hafter hb.present rfl rfl (by rw [houtput]; rfl)
      · rw [heq] at houtput hafter
        exact hsettled hafter hb.present rfl rfl (by rw [houtput]; rfl)
      · rw [heq] at houtput hafter
        obtain ⟨-, hpresent, happlet⟩ := DummyReader.handleApdu_selection hb.present apdu
        rw [DummyReader.selection_normalized hn] at happlet
        exact hsettled hafter hpresent rfl rfl (by rw [houtput]; exact happlet)
    | setParameters slot seq protocolNum payload =>
      have hparameters : ∃ num parameters, (b.setParameters slot seq protocolNum payload).2 =
          { b with protocolNum := num, parameters } := by
        unfold setParameters
        dsimp only
        repeat' split
        all_goals exact ⟨_, _, rfl⟩
      obtain ⟨num, parameters, hafter⟩ := hparameters
      exact hsettled hafter hb.present rfl rfl rfl
    | getParameters | resetParameters | abort | unknown =>
      exact hsettled rfl hb.present rfl rfl rfl

end CcidBridge

def sightsOf (h : List (Event (CcidBridge DummyReader) BridgeInput BridgeOutput)) :
    List BridgeSight :=
  h.map fun e => (e.input, e.output)

variable {h pre post : List (Event (CcidBridge DummyReader) BridgeInput BridgeOutput)}
  {e : Event (CcidBridge DummyReader) BridgeInput BridgeOutput} {b : CcidBridge DummyReader}

/-- The power and the selection of the slot are registers of what the host sees. -/
theorem run_holdsDummy (hr : Run (bridgeMachine DummyReader) (.new DummyReader.opened) h b) :
    b.HoldsDummy ∧ Registers powers (fun _ => false) false (sightsOf h) b.slotPowered ∧
      Registers selects (fun sight => sight.1.isPowerOff) .none (sightsOf h)
        b.reader.selectedApplet := by
  refine hr.invariant (A := fun _ => True)
    (P := fun h b => b.HoldsDummy ∧
      Registers powers (fun _ => false) false (sightsOf h) b.slotPowered ∧
      Registers selects (fun sight => sight.1.isPowerOff) .none (sightsOf h)
        b.reader.selectedApplet) ⟨?_, ?_, ?_⟩ ?_ fun _ _ => trivial
  · exact ⟨rfl, rfl, CcidBridge.new_poweredHasCard _⟩
  · exact Or.inr ⟨by simp [Held, sightsOf], rfl⟩
  · exact Or.inr ⟨by simp [Held, sightsOf], rfl⟩
  · rintro h b i ⟨hb, hpower, happlet⟩ -
    obtain ⟨hafter, hpower', happlet'⟩ := hb.step i
    have hsights : sightsOf (h ++ [(bridgeMachine DummyReader).event b i]) =
        sightsOf h ++ [(i, ((bridgeMachine DummyReader).event b i).output)] := by
      simp [sightsOf, Machine.event]
    refine ⟨hafter, ?_, ?_⟩
    · rw [hpower', hsights]
      exact hpower.append_singleton _
    · rw [happlet', hsights]
      exact happlet.append_singleton _

theorem ins_of_selectOverruns {payload : List UInt8} (h : CcidBridge.SelectOverruns payload) :
    payload[1]? = some apduSelectIns := by
  unfold CcidBridge.SelectOverruns at h
  split at h
  · rw [← h.1]
    rfl
  · cases h

/-- A CTAP message over the dummy. The applet answers it if the slot is powered and the applet
selected, both as the host has seen it; without the selection the card does not know the
instruction, and without power the block is refused. -/
theorem ctap_answered (hr : Run (bridgeMachine DummyReader) (.new DummyReader.opened) h b)
    (hs : h = pre ++ e :: post) {slot seq bwi p1 : UInt8} {levelParameter : UInt16}
    {payload data : List UInt8} (hi : e.input = .command (.xfrBlock slot seq bwi levelParameter payload))
    (hparse : DummyReader.parseShortApdu payload = some (0x80, fidoNfcctapMsg, p1, 0x00, data)) :
    (SlotPowered (sightsOf pre) → AppletSelected (sightsOf pre) →
      e.output = .response (.ok (.dataBlock slot seq (.ok .active) 0 0
        (DummyReader.handleCtapMsg p1 data)))) ∧
    (SlotPowered (sightsOf pre) → ¬ AppletSelected (sightsOf pre) →
      e.output = .response (.ok (.dataBlock slot seq (.ok .active) 0 0 swInsNotSupported))) ∧
    (¬ SlotPowered (sightsOf pre) →
      e.output = .response (.ok (.slotStatus slot seq (.failed .inactive)
        genericFailureError 0))) := by
  obtain ⟨hpre, heq⟩ := hr.split hs
  obtain ⟨hb, hpower, happlet⟩ := run_holdsDummy hpre
  rw [SlotPowered, hpower.held_iff (by decide), AppletSelected,
    happlet.held_iff (by decide)]
  have hins : payload[1]? = some fidoNfcctapMsg := DummyReader.ins_of_parse hparse
  have hnot : ¬ CcidBridge.SelectOverruns payload := by
    intro hoverruns
    rw [ins_of_selectOverruns hoverruns] at hins
    exact absurd (Option.some.inj hins) (by decide)
  have hsame {apdu : List UInt8} (hn : CcidBridge.normalizeApduForExchange payload = .ok apdu) :
      apdu = payload := by
    have hapdu := CcidBridge.normalizeApduForExchange_ok hn
    rw [hins, if_neg (by decide)] at hapdu
    exact hapdu
  have houtput : e.output = .response (e.before.xfrBlock slot seq payload).1 := by
    rw [heq, hi]
    rfl
  obtain ⟨card, ⟨hp, hblock⟩ | ⟨-, hoverruns, -⟩ | ⟨hp, -, apdu, response, hn, hresponse, hblock⟩⟩ :=
    hb.block slot seq payload
  · rw [houtput, hblock, hp]
    refine ⟨fun h => ?_, fun h => ?_, fun _ => rfl⟩
    · cases h
    · cases h
  · exact absurd hoverruns hnot
  · rw [hsame hn, DummyReader.handleApdu_ctapMsg hb.present hparse] at hresponse
    obtain rfl := Except.ok.inj hresponse
    rw [houtput, hblock]
    refine ⟨fun _ hselected => ?_, fun _ hselected => ?_, fun h => absurd hp h⟩
    · rw [if_pos hselected]
    · rw [if_neg hselected]

def infoInputs : List BridgeInput :=
  [.command (.iccPowerOn 0 1 0), .command (.xfrBlock 0 2 0 0 selectFido),
    .command (.xfrBlock 0 3 0 0 [0x80, 0x10, 0x80, 0x00, 0x01, 0x04])]

theorem info_answered :
    let h := (bridgeMachine DummyReader).history (.new DummyReader.opened) infoInputs
    (h.get ⟨2, by decide⟩).output = .response (.ok (.dataBlock 0 3 (.ok .active) 0 0
      (DummyReader.ctapSuccess DummyReader.authenticatorGetInfo ++ swSuccess))) := by
  intro h
  have hsplit : h = h.take 2 ++ h.get ⟨2, by decide⟩ :: [] := rfl
  have hanswered := ctap_answered (Machine.run_of_inputs _ _ _) hsplit rfl rfl
  apply hanswered.1
  · exact ⟨[], (.command (.iccPowerOn 0 1 0), _), _, rfl, rfl, by decide⟩
  · exact ⟨(sightsOf h).take 1, ((h.get ⟨1, by decide⟩).input, (h.get ⟨1, by decide⟩).output), [],
      rfl, rfl, by decide⟩

end VirtualCcid.Ccid
