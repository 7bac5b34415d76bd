import VirtualCcid.Ccid.Bridge
import VirtualCcid.Nfc.Dummy

/-! Which commands the bridge answers at all: the ranges it slices, and the one that a host can
make overrun. -/
namespace VirtualCcid.Ccid
open Rust Nfc Runs

namespace CcidBridge

theorem buildPseudoAtr_returns (card : CardPresence) : ∃ atr, buildPseudoAtr card = .ok atr := by
  unfold buildPseudoAtr
  by_cases hp : card.historicalBytes.head? = some 0x3b ∨ card.historicalBytes.head? = some 0x3f
  · exact ⟨card.historicalBytes, by simp [hp]; rfl⟩
  · by_cases hl : card.historicalBytes.length > atrT0HistoricalBytesMask.toNat
    · have hlen : 15 ≤ card.historicalBytes.length := by
        have : atrT0HistoricalBytesMask.toNat = 15 := by decide
        omega
      simp only [hp, hl, if_true, if_false, slice_eq_ok (Nat.zero_le 15) hlen]
      exact ⟨_, rfl⟩
    · simp only [hp, hl, if_false]
      exact ⟨_, rfl⟩

theorem normalizeApduForExchange_returns (apdu : List UInt8) :
    ∃ normalized, normalizeApduForExchange apdu = .ok normalized := by
  unfold normalizeApduForExchange
  by_cases h : apdu[1]? = some apduGetResponseIns
  · have hlen : 0 < apdu.length := by
      have := (List.getElem?_eq_some_iff.mp h).1
      omega
    simp only [h, if_true, index_eq_ok hlen]
    exact ⟨_, rfl⟩
  · simp only [h, if_false]
    exact ⟨_, rfl⟩

/-- A SELECT by DF name whose length byte announces more data than the payload holds. -/
def SelectOverruns : List UInt8 → Prop
  | _ :: ins :: p1 :: _ :: lc :: data =>
    ins = apduSelectIns ∧ p1 = apduSelectByDfNameP1 ∧ data.length < lc.toNat
  | _ => False

instance : DecidablePred SelectOverruns
  | _ :: ins :: p1 :: _ :: lc :: data =>
    inferInstanceAs (Decidable
      (ins = apduSelectIns ∧ p1 = apduSelectByDfNameP1 ∧ data.length < lc.toNat))
  | [] | [_] | [_, _] | [_, _, _] | [_, _, _, _] => isFalse id

/-- Past the two header checks the slice decides alone: its guard comes too late. -/
private theorem selectAid_select (cla p2 lc : UInt8) (data : List UInt8) :
    let apdu := cla :: apduSelectIns :: apduSelectByDfNameP1 :: p2 :: lc :: data
    (∃ aid, selectAid apdu = .ok aid) ↔ ∃ aid, slice apdu 5 (5 + lc.toNat) = .ok aid := by
  intro apdu
  have hlen : ¬ apdu.length < 5 := by simp [apdu]
  have h1 : index apdu 1 = .ok apduSelectIns := rfl
  have h2 : index apdu 2 = .ok apduSelectByDfNameP1 := rfl
  have h4 : index apdu 4 = .ok lc := rfl
  unfold selectAid
  simp only [hlen, if_false, h1, h2, h4, bind, Except.bind, ne_eq, not_true_eq_false]
  cases slice apdu 5 (5 + lc.toNat) with
  | error panic => simp
  | ok aid => simp [pure, Except.pure]

theorem selectAid_returns_iff (apdu : List UInt8) :
    (∃ aid, selectAid apdu = .ok aid) ↔ ¬ SelectOverruns apdu := by
  match apdu with
  | [] | [_] | [_, _] | [_, _, _] | [_, _, _, _] =>
    simp [selectAid, SelectOverruns, pure, Except.pure]
  | cla :: ins :: p1 :: p2 :: lc :: data =>
    by_cases hi : ins = apduSelectIns
    · by_cases hp : p1 = apduSelectByDfNameP1
      · subst hi hp
        apply (selectAid_select cla p2 lc data).trans
        rw [slice_returns_iff (Nat.le_add_right 5 _)]
        simp only [SelectOverruns, List.length_cons, true_and, Nat.not_lt]
        omega
      · simp [selectAid, SelectOverruns, index, hi, hp, pure, Except.pure, bind, Except.bind]
    · simp [selectAid, SelectOverruns, index, hi, pure, Except.pure, bind, Except.bind]

variable {ρ : Type*} [NfcReader ρ]

def PoweredHasCard (b : CcidBridge ρ) : Prop :=
  b.slotPowered = true → b.currentCard.isSome = true

theorem new_poweredHasCard (reader : ρ) : (new reader).PoweredHasCard := by
  simp [PoweredHasCard, new]

theorem refreshCardPresence_poweredHasCard {b : CcidBridge ρ} (hb : b.PoweredHasCard) :
    b.refreshCardPresence.2.PoweredHasCard := by
  unfold refreshCardPresence
  split
  · exact hb
  · split <;> simp_all [PoweredHasCard]

theorem exchangeBlock_poweredHasCard {b : CcidBridge ρ} (hb : b.PoweredHasCard)
    (slot seq : UInt8) (payload : List UInt8) :
    (b.exchangeBlock slot seq payload).2.PoweredHasCard := by
  unfold exchangeBlock
  repeat' split
  all_goals first | exact hb | simp [PoweredHasCard]

theorem handleCommand_poweredHasCard {b : CcidBridge ρ} (hb : b.PoweredHasCard)
    (c : CcidCommand) : (b.handleCommand c).2.PoweredHasCard := by
  cases c with
  | iccPowerOn slot seq powerSelect =>
    simp only [handleCommand, iccPowerOn]
    repeat' split
    all_goals first | exact hb | simp [PoweredHasCard]
  | iccPowerOff slot seq =>
    simp only [handleCommand, iccPowerOff]
    split
    · exact hb
    · simp [PoweredHasCard]
  | getSlotStatus slot seq =>
    have hr := refreshCardPresence_poweredHasCard hb
    simp only [handleCommand, getSlotStatus]
    split
    · next heq =>
      rw [heq] at hr
      split
      · next hd => exact fun _ => hd.1
      · exact hr
    · next heq =>
      rw [heq] at hr
      exact hr
  | setParameters slot seq protocolNum payload =>
    simp only [handleCommand, setParameters]
    repeat' split
    all_goals exact hb
  | xfrBlock slot seq bwi levelParameter payload =>
    have hr := refreshCardPresence_poweredHasCard hb
    simp only [handleCommand, xfrBlock]
    split
    · split
      · next heq =>
        rw [heq] at hr
        exact exchangeBlock_poweredHasCard hr slot seq payload
      · simp [PoweredHasCard]
    · exact exchangeBlock_poweredHasCard hb slot seq payload
  | getParameters | resetParameters | abort | unknown => exact hb

/-- A refresh leaves a powered slot alone; otherwise it polls once and powers nothing. -/
theorem refreshCardPresence_cases {b : CcidBridge ρ} (hb : b.PoweredHasCard) :
    (b.slotPowered = true ∧ b.refreshCardPresence = (.ok true, b)) ∨
      (b.slotPowered = false ∧ b.refreshCardPresence.2.slotPowered = false ∧
        b.refreshCardPresence.2.reader = (NfcReader.pollCard b.reader).2) := by
  unfold refreshCardPresence
  cases hp : b.slotPowered with
  | true => simp [hb hp]
  | false =>
    obtain ⟨result, reader, hpoll⟩ :
        ∃ result reader, NfcReader.pollCard b.reader = (result, reader) := ⟨_, _, rfl⟩
    rw [hpoll]
    match result with
    | .error error => simp
    | .ok none => simp
    | .ok (some card) => simp

theorem getSlotStatus_state {b : CcidBridge ρ} (hn : b.readerCapabilities.name ≠ "dummy")
    (slot seq : UInt8) : (b.getSlotStatus slot seq).2 = b.refreshCardPresence.2 := by
  have hn' : b.refreshCardPresence.2.readerCapabilities.name ≠ "dummy" := by
    rwa [refreshCardPresence_capabilities]
  unfold getSlotStatus
  split
  · next heq =>
    rw [heq] at hn'
    simp [hn', heq]
  · next heq => rw [heq]

theorem exchangeBlock_unpowered {b : CcidBridge ρ} (hp : b.slotPowered = false) (slot seq : UInt8)
    (payload : List UInt8) : (b.exchangeBlock slot seq payload).2 = b := by
  unfold exchangeBlock
  split <;> simp [hp]

/-- A block reaches the exchange in a powered slot only; else it polls if there is no card. -/
theorem xfrBlock_cases {b : CcidBridge ρ} (hb : b.PoweredHasCard) (slot seq : UInt8)
    (payload : List UInt8) :
    (b.slotPowered = true ∧ b.xfrBlock slot seq payload = b.exchangeBlock slot seq payload) ∨
      (b.slotPowered = false ∧ (b.xfrBlock slot seq payload).2.slotPowered = false ∧
        ((b.xfrBlock slot seq payload).2.reader = b.reader ∨
          (b.xfrBlock slot seq payload).2.reader = (NfcReader.pollCard b.reader).2)) := by
  by_cases hcard : b.currentCard.isNone = true
  · rcases refreshCardPresence_cases hb with ⟨hp, _⟩ | ⟨hp, hp', hreader⟩
    · have := hb hp
      simp_all
    · right
      simp only [xfrBlock, hcard, if_true]
      split
      · next heq =>
        rw [heq] at hp' hreader
        rw [exchangeBlock_unpowered hp']
        exact ⟨hp, hp', .inr hreader⟩
      · next heq =>
        rw [heq] at hreader
        exact ⟨hp, rfl, .inr hreader⟩
  · cases hp : b.slotPowered with
    | true => simp [xfrBlock, hcard]
    | false => simp [xfrBlock, hcard, exchangeBlock_unpowered hp, hp]

theorem normalizeApduForExchange_length {payload apdu : List UInt8}
    (h : normalizeApduForExchange payload = .ok apdu) : apdu.length = payload.length := by
  unfold normalizeApduForExchange at h
  by_cases hi : payload[1]? = some apduGetResponseIns
  · have hlen : 0 < payload.length := by
      have := (List.getElem?_eq_some_iff.mp hi).1
      omega
    simp only [hi, if_true, index_eq_ok hlen] at h
    obtain rfl := Except.ok.inj h
    simp
  · simp only [hi, if_false] at h
    obtain rfl := Except.ok.inj h
    rfl

theorem exchangeBlock_reader {b : CcidBridge ρ} (hb : b.PoweredHasCard) (hp : b.slotPowered = true)
    (slot seq : UInt8) (payload : List UInt8) :
    (SelectOverruns payload ∧ (b.exchangeBlock slot seq payload).2.reader = b.reader) ∨
      (¬ SelectOverruns payload ∧ ∃ apdu, apdu.length = payload.length ∧
        (b.exchangeBlock slot seq payload).2.reader =
          (NfcReader.exchangeApdu b.reader apdu).2) := by
  have hcard : b.currentCard.isNone = false := by simpa using hb hp
  obtain ⟨apdu, hn⟩ := normalizeApduForExchange_returns payload
  rw [← not_not (a := SelectOverruns payload), ← selectAid_returns_iff]
  unfold exchangeBlock
  simp only [hcard, hp, hn, Bool.false_eq_true, if_false, Bool.not_true]
  cases selectAid payload with
  | error panic => simp
  | ok aid =>
    right
    refine ⟨by simp, apdu, normalizeApduForExchange_length hn, ?_⟩
    dsimp only
    split <;> (next heq => rw [heq])

theorem step_poweredHasCard {b : CcidBridge ρ} (hb : b.PoweredHasCard) (i : BridgeInput) :
    ((bridgeMachine ρ).step b i).2.PoweredHasCard := by
  cases i with
  | command c => exact handleCommand_poweredHasCard hb c
  | refresh => exact refreshCardPresence_poweredHasCard hb

theorem run_poweredHasCard {reader : ρ} {h : List (Event (CcidBridge ρ) BridgeInput BridgeOutput)}
    {b : CcidBridge ρ} (hr : Run (bridgeMachine ρ) (new reader) h b) : b.PoweredHasCard := by
  exact hr.invariant (A := fun _ => True) (P := fun _ b => b.PoweredHasCard)
    (new_poweredHasCard reader) (fun _ _ i hb _ => step_poweredHasCard hb i) fun _ _ => trivial

/-- The commands on which `select_aid` reads past the payload: it is reached with the slot
powered only, since an unpowered slot refuses the block before. -/
def Overruns (b : CcidBridge ρ) : CcidCommand → Prop
  | .xfrBlock _ _ _ _ payload => b.slotPowered = true ∧ SelectOverruns payload
  | _ => False

instance (b : CcidBridge ρ) : DecidablePred b.Overruns
  | .xfrBlock _ _ _ _ payload =>
    inferInstanceAs (Decidable (b.slotPowered = true ∧ SelectOverruns payload))
  | .iccPowerOn .. | .iccPowerOff .. | .getSlotStatus .. | .getParameters ..
  | .resetParameters .. | .setParameters .. | .abort .. | .unknown .. => isFalse id

theorem exchangeBlock_returns_iff {b : CcidBridge ρ} (hb : b.PoweredHasCard) (slot seq : UInt8)
    (payload : List UInt8) :
    (∃ r, (b.exchangeBlock slot seq payload).1 = .ok r) ↔
      ¬ (b.slotPowered = true ∧ SelectOverruns payload) := by
  unfold exchangeBlock
  by_cases hp : b.slotPowered = true
  · have hc : b.currentCard.isNone = false := by simpa using hb hp
    obtain ⟨apdu, hn⟩ := normalizeApduForExchange_returns payload
    simp only [hc, hp, hn, Bool.false_eq_true, if_false, Bool.not_true, true_and]
    rw [← selectAid_returns_iff]
    cases selectAid payload with
    | error panic => simp
    | ok aid =>
      simp only [Except.ok.injEq, exists_eq', iff_true]
      split <;> exact ⟨_, rfl⟩
  · by_cases hc : b.currentCard.isNone <;> simp [hc, hp]

theorem handleCommand_returns_iff {b : CcidBridge ρ} (hb : b.PoweredHasCard) (c : CcidCommand) :
    (∃ r, (b.handleCommand c).1 = .ok r) ↔ ¬ b.Overruns c := by
  cases c with
  | iccPowerOn slot seq powerSelect =>
    simp only [handleCommand, iccPowerOn, Overruns, not_false_eq_true, iff_true]
    split
    · next card _ _ =>
      obtain ⟨atr, ha⟩ := buildPseudoAtr_returns card
      simp [ha]
    · exact ⟨_, rfl⟩
    · exact ⟨_, rfl⟩
  | setParameters slot seq protocolNum payload =>
    simp only [handleCommand, setParameters, Overruns, not_false_eq_true, iff_true]
    split
    · exact ⟨_, rfl⟩
    · next hlen =>
      have hlen : payload.length = 7 := by
        simp only [not_or, not_not] at hlen
        exact hlen.2
      obtain ⟨v, hv, _⟩ := copyFromSlice_returns b.parameters hlen
      simp [hv]
  | xfrBlock slot seq bwi levelParameter payload =>
    have hr := refreshCardPresence_poweredHasCard hb
    simp only [handleCommand, xfrBlock, Overruns]
    split
    · next hc =>
      have hp : b.slotPowered = false := by
        by_contra hp
        have := hb (by simpa using hp)
        simp_all
      have hp' : b.refreshCardPresence.2.slotPowered = false := by
        unfold refreshCardPresence
        repeat' split
        all_goals simp_all
      split
      · next heq =>
        rw [heq] at hr hp'
        rw [exchangeBlock_returns_iff hr]
        simp only at hp'
        simp [hp, hp']
      · simp [hp]
    · exact exchangeBlock_returns_iff hb ..
  | iccPowerOff | getSlotStatus | getParameters | resetParameters | abort | unknown =>
    simp [handleCommand, Overruns]

/-- In every run of a fresh bridge exactly the commands that do not overrun are answered: the
bridge panics on a powered slot at a SELECT by DF name that declares more data than it has. -/
theorem run_answers_iff_not_overruns (reader : ρ)
    {h : List (Event (CcidBridge ρ) BridgeInput BridgeOutput)} {b : CcidBridge ρ}
    (hr : Run (bridgeMachine ρ) (new reader) h b) :
    ∀ e ∈ h, ∀ c, e.input = .command c →
      ((∃ r, e.output = .response (.ok r)) ↔ ¬ e.before.Overruns c) := by
  intro e he c hc
  obtain ⟨pre, hpre, heq, _⟩ := hr.before e he
  have hout : e.output = .response (e.before.handleCommand c).1 := by
    rw [heq, hc]
    rfl
  rw [← handleCommand_returns_iff (run_poweredHasCard hpre) c, hout]
  simp

/-- The dummy backend, powered on, and a SELECT of an eight-byte AID with no byte of it. -/
theorem select_without_data_panics :
    ¬ ∀ h b, Run (bridgeMachine DummyReader) (new DummyReader.opened) h b →
      ∀ c, ∃ r, (b.handleCommand c).1 = .ok r := by
  intro hall
  have hr := (bridgeMachine DummyReader).run_of_inputs (new DummyReader.opened)
    [.command (.iccPowerOn 0 1 0)]
  obtain ⟨r, hr⟩ := hall _ _ hr (.xfrBlock 0 2 0 0 [0x00, 0xa4, 0x04, 0x00, 0x08])
  have hp : (((bridgeMachine DummyReader).final (new DummyReader.opened)
      [.command (.iccPowerOn 0 1 0)]).handleCommand
        (.xfrBlock 0 2 0 0 [0x00, 0xa4, 0x04, 0x00, 0x08])).1 =
      .error (.rangeOutOfBounds 5 13 5) := rfl
  rw [hp] at hr
  cases hr

theorem run_answers_after_power_on :
    let b := (bridgeMachine DummyReader).final (new DummyReader.opened)
      [.command (.iccPowerOn 0 1 0)]
    let c := CcidCommand.xfrBlock 0 2 0 0 [0x00, 0xa4, 0x04, 0x00, 0x02, 0xa0, 0x00]
    ∃ r, ((bridgeMachine DummyReader).event b (.command c)).output = .response (.ok r) := by
  intro b c
  have hmem : (bridgeMachine DummyReader).event b (.command c) ∈
      (bridgeMachine DummyReader).history (new DummyReader.opened)
        [.command (.iccPowerOn 0 1 0), .command c] := by
    simp [Machine.history, Machine.final, b]
  exact (run_answers_iff_not_overruns DummyReader.opened (Machine.run_of_inputs _ _ _) _ hmem c
    rfl).mpr (by decide)

end CcidBridge
end VirtualCcid.Ccid
