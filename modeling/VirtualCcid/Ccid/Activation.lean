import VirtualCcid.Ccid.BridgeAnswers
import VirtualCcid.Nfc.Recorded

/-! Target activations under the bridge: which `InListPassiveTarget` the reader's active target
comes from, and which card session its `InDataExchange` commands belong to. -/
namespace VirtualCcid.Ccid
open Rust Nfc Runs
variable {δ : Type*} [Pn532Device δ]

/-- The bridge over a PN532, with the device commands of each step beside its output. -/
def deviceMachine (δ : Type*) [Pn532Device δ] :
    Machine (CcidBridge (Pn532UartReader (RecordedDevice δ))) BridgeInput
      (List DeviceCall × BridgeOutput) where
  step b i :=
    let pn532 := { b.reader.pn532 with calls := [] }
    let s := (bridgeMachine _).step { b with reader := { b.reader with pn532 } } i
    ((s.2.reader.pn532.calls, s.1), s.2)

inductive DeviceEvent where
  | call (input : BridgeInput) (call : DeviceCall)
  | answered (input : BridgeInput) (output : BridgeOutput)

/-- The device commands of a step in order, then its answer. -/
def deviceEvents
    (e : Event (CcidBridge (Pn532UartReader (RecordedDevice δ))) BridgeInput
      (List DeviceCall × BridgeOutput)) : List DeviceEvent :=
  e.output.1.map (.call e.input) ++ [.answered e.input e.output.2]

namespace CcidBridge

theorem pollCard_follows (r : Pn532UartReader (RecordedDevice δ)) :
    ∃ cs, r.Follows (NfcReader.pollCard r).2 cs ∧ ∀ c ∈ cs, c.isExchange = false := by
  obtain ⟨cs, hf, hx, _⟩ := r.pollCard_recorded
  exact ⟨cs, hf, hx⟩

theorem step_follows {b : CcidBridge (Pn532UartReader (RecordedDevice δ))} (hb : b.PoweredHasCard)
    (i : BridgeInput) : ∃ cs, b.reader.Follows ((bridgeMachine _).step b i).2.reader cs := by
  obtain ⟨polled, hpoll, _⟩ := pollCard_follows b.reader
  have hrefresh : ∃ cs, b.reader.Follows b.refreshCardPresence.2.reader cs := by
    rcases refreshCardPresence_cases hb with ⟨_, heq⟩ | ⟨_, _, hreader⟩
    · exact ⟨[], heq ▸ .refl _⟩
    · exact ⟨polled, hreader ▸ hpoll⟩
  cases i with
  | refresh => exact hrefresh
  | command c =>
    cases c with
    | iccPowerOn slot seq powerSelect => exact ⟨polled, b.iccPowerOn_reader slot seq ▸ hpoll⟩
    | iccPowerOff slot seq =>
      obtain ⟨cs, hf, _⟩ := b.reader.powerOff_recorded
      exact ⟨cs, b.iccPowerOff_reader slot seq ▸ hf⟩
    | getSlotStatus slot seq => exact b.getSlotStatus_reader slot seq ▸ hrefresh
    | xfrBlock slot seq bwi levelParameter payload =>
      rcases xfrBlock_cases hb slot seq payload with ⟨hp, hs⟩ | ⟨_, _, hreader | hreader⟩
      · have hs' : ((bridgeMachine _).step b
            (.command (.xfrBlock slot seq bwi levelParameter payload))).2 =
            (b.exchangeBlock slot seq payload).2 := congrArg Prod.snd hs
        rw [hs']
        rcases exchangeBlock_reader hb hp slot seq payload with ⟨_, hr⟩ | ⟨_, apdu, _, hr⟩
        · exact ⟨[], hr ▸ .refl _⟩
        · obtain ⟨cs, hf⟩ := b.reader.exchangeApdu_recorded apdu
          exact ⟨cs, hr ▸ hf⟩
      · exact ⟨[], hreader ▸ .refl _⟩
      · exact ⟨polled, hreader ▸ hpoll⟩
    | setParameters slot seq protocolNum payload =>
      exact ⟨[], b.setParameters_reader slot seq protocolNum payload ▸ .refl _⟩
    | getParameters | resetParameters | abort | unknown => exact ⟨[], .refl _⟩

end CcidBridge
end VirtualCcid.Ccid
