import VirtualCcid.Ccid.Parameters

/-! What every response of the bridge has in common: it answers its own command, fails exactly
with an error, and promises no more than the state it leaves. -/
namespace VirtualCcid.Ccid
open Rust Nfc Runs

namespace CcidBridge
variable {ρ : Type*}

/-- `r` answers `c` and agrees with itself and with the bridge it leaves. -/
structure Answers (c : CcidCommand) (r : CcidResponse) (b : CcidBridge ρ) : Prop where
  slot : r.slot = c.slot
  seq : r.seq = c.seq
  failed_iff : r.status.command = .failed ↔ r.error ≠ 0
  dataBlock : ∀ {slot seq status error chainParameter payload},
    r = .dataBlock slot seq status error chainParameter payload →
      status = ⟨.active, .noError⟩ ∧ b.slotPowered = true ∧ b.currentCard.isSome = true
  parameters : ∀ {slot seq status error protocolNum payload},
    r = .parameters slot seq status error protocolNum payload →
      protocolNum = 1 ∧ payload.length = 7

theorem noError_failed_iff : CommandStatus.noError = .failed ↔ (0 : UInt8) ≠ 0 := by decide

theorem failed_failed_iff : CommandStatus.failed = .failed ↔ genericFailureError ≠ 0 := by decide

section Responses
variable (c : CcidCommand) (b : CcidBridge ρ)

theorem answers_ok (icc : IccStatus) : Answers c (.slotStatus c.slot c.seq (.ok icc) 0 0) b where
  slot := rfl
  seq := rfl
  failed_iff := noError_failed_iff
  dataBlock h := by cases h
  parameters h := by cases h

theorem answers_failed (icc : IccStatus) :
    Answers c (.slotStatus c.slot c.seq (.failed icc) genericFailureError 0) b where
  slot := rfl
  seq := rfl
  failed_iff := failed_failed_iff
  dataBlock h := by cases h
  parameters h := by cases h

variable {b}

theorem answers_dataBlock (hp : b.slotPowered = true) (hc : b.currentCard.isSome = true)
    (payload : List UInt8) :
    Answers c (.dataBlock c.slot c.seq (.ok .active) 0 0 payload) b where
  slot := rfl
  seq := rfl
  failed_iff := noError_failed_iff
  dataBlock h := by
    cases h
    exact ⟨rfl, hp, hc⟩
  parameters h := by cases h

theorem answers_parameters (hb : b.protocolNum = 1) (failed : Bool) :
    Answers c (b.parametersResponse c.slot c.seq failed) b where
  slot := rfl
  seq := rfl
  failed_iff := by
    cases failed with
    | false => exact noError_failed_iff
    | true => exact failed_failed_iff
  dataBlock h := by cases h
  parameters h := by
    cases h
    exact ⟨hb, Vector.length_toList⟩

end Responses

variable [NfcReader ρ] {b b' : CcidBridge ρ} {r : CcidResponse}

theorem iccPowerOn_answers {c : CcidCommand} (h : b.iccPowerOn c.slot c.seq = (.ok r, b')) :
    Answers c r b' := by
  unfold iccPowerOn at h
  split at h
  · split at h
    · cases h
    · cases h
      exact answers_dataBlock c rfl rfl _
  · cases h
    exact answers_failed c _ _
  · cases h
    exact answers_failed c _ _

theorem iccPowerOff_answers {c : CcidCommand} (h : b.iccPowerOff c.slot c.seq = (r, b')) :
    Answers c r b' := by
  unfold iccPowerOff at h
  split at h
  · cases h
    exact answers_failed c _ _
  · cases h
    exact answers_ok c _ _

theorem getSlotStatus_answers {c : CcidCommand} (h : b.getSlotStatus c.slot c.seq = (r, b')) :
    Answers c r b' := by
  unfold getSlotStatus at h
  split at h
  · cases h
    exact answers_ok c _ _
  · cases h
    exact answers_failed c _ _

/-- Of the exits of a block only the one with a response needs the slot it has checked. -/
theorem exchangeBlock_answers {c : CcidCommand} {payload : List UInt8}
    (h : b.exchangeBlock c.slot c.seq payload = (.ok r, b')) : Answers c r b' := by
  unfold exchangeBlock at h
  split at h
  · cases h
    exact answers_failed c _ _
  next hcard =>
  split at h
  · cases h
    exact answers_failed c _ _
  next hpowered =>
  have hcard : b.currentCard.isSome = true := by
    rw [Option.isNone_iff_eq_none] at hcard
    exact Option.isSome_iff_ne_none.mpr hcard
  have hpowered : b.slotPowered = true := by simpa using hpowered
  split at h
  · cases h
  split at h
  · cases h
  split at h
  · next response reader _ =>
    cases h
    exact answers_dataBlock (b := { b with reader }) c hpowered hcard response
  · cases h
    exact answers_failed c _ _
  · cases h
    exact answers_failed c _ _

theorem xfrBlock_answers {c : CcidCommand} {payload : List UInt8}
    (h : b.xfrBlock c.slot c.seq payload = (.ok r, b')) : Answers c r b' := by
  unfold xfrBlock at h
  split at h
  · split at h
    · exact exchangeBlock_answers h
    · cases h
      exact answers_failed c _ _
  · exact exchangeBlock_answers h

theorem handleCommand_answers {c : CcidCommand} (hb : b.protocolNum = 1)
    (h : b.handleCommand c = (.ok r, b')) : Answers c r b' := by
  cases c with
  | iccPowerOn slot seq powerSelect =>
    exact iccPowerOn_answers (c := .iccPowerOn slot seq powerSelect) h
  | iccPowerOff slot seq =>
    cases h
    exact iccPowerOff_answers (c := .iccPowerOff slot seq) rfl
  | getSlotStatus slot seq =>
    cases h
    exact getSlotStatus_answers (c := .getSlotStatus slot seq) rfl
  | setParameters slot seq protocolNum payload =>
    let c := CcidCommand.setParameters slot seq protocolNum payload
    have h : b.setParameters slot seq protocolNum payload = (.ok r, b') := h
    by_cases hguard : protocolNum = 1 ∧ payload.length = 7
    · obtain ⟨rfl, hlen⟩ := hguard
      obtain ⟨parameters, -, heq⟩ := b.setParameters_accepted slot seq hlen
      cases heq.symm.trans h
      exact answers_parameters c rfl false
    · cases (b.setParameters_rejected slot seq hguard).symm.trans h
      exact answers_parameters c hb true
  | xfrBlock slot seq bwi levelParameter payload =>
    exact xfrBlock_answers (c := .xfrBlock slot seq bwi levelParameter payload) h
  | getParameters slot seq =>
    cases h
    exact answers_parameters (.getParameters slot seq) hb false
  | resetParameters slot seq =>
    cases h
    exact answers_parameters (.resetParameters slot seq) rfl false
  | abort slot seq =>
    cases h
    exact answers_ok (.abort slot seq) _ _
  | unknown messageType slot seq parameters payload =>
    cases h
    exact answers_failed (.unknown messageType slot seq parameters payload) _ _

/-- In every run of commands and refreshes every response answers its command. -/
theorem run_answers (reader : ρ) {h : List (Event (CcidBridge ρ) BridgeInput BridgeOutput)}
    (hr : Run (bridgeMachine ρ) (new reader) h b) {e : Event (CcidBridge ρ) BridgeInput BridgeOutput}
    (he : e ∈ h) {c : CcidCommand} (hi : e.input = .command c)
    (ho : e.output = .response (.ok r)) : Answers c r e.after := by
  obtain ⟨pre, hpre, heq, -⟩ := hr.before e he
  have hafter : e.after = (e.before.handleCommand c).2 := by
    rw [heq, hi]
    rfl
  have hresult : (e.before.handleCommand c).1 = .ok r := by
    rw [heq, hi] at ho
    exact BridgeOutput.response.inj ho
  rw [hafter]
  exact handleCommand_answers (run_protocolNum hpre) (Prod.ext hresult rfl)

/-- A block on a slot that is powered, and one of an unknown kind. -/
theorem run_answers_of_fake :
    let M := bridgeMachine FakeReader
    let b := M.final (new ⟨[.ok (some ⟨[1, 2, 3, 4], .isoDep, []⟩)], [], []⟩)
      [.command (.iccPowerOn 0 1 0)]
    let e := M.event b (.command (.xfrBlock 0 2 0 0 [0x00, 0xca, 0x00, 0x00]))
    Answers (.xfrBlock 0 2 0 0 [0x00, 0xca, 0x00, 0x00])
      (.dataBlock 0 2 (.ok .active) 0 0 [0x90, 0x00]) e.after := by
  intro M b e
  have hr := M.run_of_inputs (new ⟨[.ok (some ⟨[1, 2, 3, 4], .isoDep, []⟩)], [], []⟩)
    [.command (.iccPowerOn 0 1 0), .command (.xfrBlock 0 2 0 0 [0x00, 0xca, 0x00, 0x00])]
  have he : e ∈ M.history (new ⟨[.ok (some ⟨[1, 2, 3, 4], .isoDep, []⟩)], [], []⟩)
      [.command (.iccPowerOn 0 1 0), .command (.xfrBlock 0 2 0 0 [0x00, 0xca, 0x00, 0x00])] := by
    simp [Machine.history, Machine.final, e, b]
  exact run_answers _ hr he rfl rfl

end CcidBridge
end VirtualCcid.Ccid
