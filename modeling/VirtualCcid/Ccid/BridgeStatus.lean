import VirtualCcid.Ccid.Bridge

/-! Whether the slot status in a response is the status of the slot it leaves. -/
namespace VirtualCcid.Ccid
open Rust Nfc Runs

namespace CcidBridge
variable {ρ : Type*} [NfcReader ρ]

/-- A reader failure on a path that answers the constant `Inactive`, in a slot whose status is
another one: four error exits write the constant instead of `current_icc_status`. -/
def AnswersStaleIcc (b : CcidBridge ρ) : CcidCommand → Prop
  | .iccPowerOn .. => (NfcReader.pollCard b.reader).1.isOk = false
  | .iccPowerOff .. =>
    (NfcReader.powerOff b.reader).1.isOk = false ∧ b.currentIccStatus ≠ .inactive
  | .getSlotStatus .. | .xfrBlock .. =>
    b.currentCard = none ∧ (NfcReader.pollCard b.reader).1.isOk = false
  | _ => False

theorem exchangeBlock_icc {b b' : CcidBridge ρ} {slot seq : UInt8} {payload : List UInt8}
    {r : CcidResponse} (h : b.exchangeBlock slot seq payload = (.ok r, b')) :
    r.status.icc = b'.currentIccStatus := by
  unfold exchangeBlock at h
  split at h
  · next hc =>
    cases h
    exact (currentIccStatus_none (by simpa using hc)).symm
  next hc =>
  obtain ⟨card, hc⟩ := Option.ne_none_iff_exists'.mp (by simpa using hc)
  split at h
  · next hp =>
    cases h
    exact (currentIccStatus_unpowered hc (by simpa using hp)).symm
  next hp =>
  have hp : b.slotPowered = true := by simpa using hp
  repeat' split at h
  all_goals cases h
  · exact (currentIccStatus_powered (b := { b with reader := _ }) hc hp).symm
  · rfl
  · rfl

theorem refreshCardPresence_ok_of_empty {b b' : CcidBridge ρ} {present : Bool}
    (h : b.refreshCardPresence = (.ok present, b')) (hc : b.currentCard = none) :
    (NfcReader.pollCard b.reader).1.isOk = true := by
  unfold refreshCardPresence at h
  simp only [hc, Option.isSome_none, Bool.false_eq_true, and_false, if_false] at h
  split at h
  · cases h
  · next heq => rw [heq]; rfl
  · next heq => rw [heq]; rfl

section Commands
variable {b b' : CcidBridge ρ} {r : CcidResponse} {slot seq : UInt8}

theorem iccPowerOn_icc_iff (powerSelect : UInt8) (h : b.iccPowerOn slot seq = (.ok r, b')) :
    r.status.icc = b'.currentIccStatus ↔ ¬ b.AnswersStaleIcc (.iccPowerOn slot seq powerSelect) := by
  simp only [iccPowerOn] at h
  simp only [AnswersStaleIcc]
  split at h
  · next heq =>
    split at h
    · cases h
    · cases h
      simp [heq, Except.isOk, Except.toBool, CcidResponse.status, SlotStatus.ok, currentIccStatus]
  · next heq =>
    cases h
    simp [heq, Except.isOk, Except.toBool, CcidResponse.status, SlotStatus.failed, currentIccStatus]
  · next heq =>
    cases h
    simp [heq, Except.isOk, Except.toBool, CcidResponse.status, SlotStatus.failed, currentIccStatus]

theorem iccPowerOff_icc_iff (h : b.iccPowerOff slot seq = (r, b')) :
    r.status.icc = b'.currentIccStatus ↔ ¬ b.AnswersStaleIcc (.iccPowerOff slot seq) := by
  simp only [iccPowerOff] at h
  simp only [AnswersStaleIcc]
  split at h
  · next heq =>
    cases h
    rw [currentIccStatus_reader]
    simp [heq, Except.isOk, Except.toBool, CcidResponse.status, SlotStatus.failed, eq_comm]
  · next heq =>
    cases h
    simp [heq, Except.isOk, Except.toBool, CcidResponse.status, SlotStatus.ok]

theorem getSlotStatus_icc_iff (h : b.getSlotStatus slot seq = (r, b')) :
    r.status.icc = b'.currentIccStatus ↔ ¬ b.AnswersStaleIcc (.getSlotStatus slot seq) := by
  simp only [getSlotStatus] at h
  simp only [AnswersStaleIcc]
  split at h
  · next heq =>
    cases h
    have hok : b.currentCard = none → (NfcReader.pollCard b.reader).1.isOk = true :=
      refreshCardPresence_ok_of_empty heq
    simp only [CcidResponse.status, SlotStatus.ok, true_iff, not_and]
    intro hc
    simp [hok hc]
  · next heq =>
    cases h
    obtain ⟨hpoll, hslot, rfl⟩ := refreshCardPresence_error heq
    rw [currentIccStatus_reader]
    simp only [CcidResponse.status, SlotStatus.failed, hpoll, and_true]
    cases hc : b.currentCard with
    | none => simp [currentIccStatus_none hc]
    | some card =>
      -- The status is `Inactive` by itself: the refresh polls a filled slot only unpowered.
      have hp : b.slotPowered = false := by simpa [hc] using hslot
      simp [currentIccStatus_unpowered hc hp]

theorem xfrBlock_icc_iff (bwi : UInt8) (levelParameter : UInt16) {payload : List UInt8}
    (h : b.xfrBlock slot seq payload = (.ok r, b')) :
    r.status.icc = b'.currentIccStatus ↔
      ¬ b.AnswersStaleIcc (.xfrBlock slot seq bwi levelParameter payload) := by
  simp only [xfrBlock] at h
  simp only [AnswersStaleIcc]
  split at h
  · next hc =>
    have hc : b.currentCard = none := by simpa using hc
    split at h
    · next heq =>
      have hok := refreshCardPresence_ok_of_empty heq hc
      simp [exchangeBlock_icc h, hok]
    · next heq =>
      cases h
      obtain ⟨hpoll, _, rfl⟩ := refreshCardPresence_error heq
      simp [CcidResponse.status, SlotStatus.failed, hpoll, hc, currentIccStatus]
  · next hc =>
    have hc : b.currentCard ≠ none := by simpa using hc
    simp [exchangeBlock_icc h, hc]

theorem handleCommand_icc_iff {c : CcidCommand} (h : b.handleCommand c = (.ok r, b')) :
    r.status.icc = b'.currentIccStatus ↔ ¬ b.AnswersStaleIcc c := by
  cases c with
  | iccPowerOn slot seq powerSelect => exact iccPowerOn_icc_iff powerSelect h
  | iccPowerOff slot seq =>
    cases h
    exact iccPowerOff_icc_iff rfl
  | getSlotStatus slot seq =>
    cases h
    exact getSlotStatus_icc_iff rfl
  | xfrBlock slot seq bwi levelParameter payload => exact xfrBlock_icc_iff bwi levelParameter h
  | setParameters slot seq protocolNum payload =>
    simp only [handleCommand, setParameters] at h
    simp only [AnswersStaleIcc, not_false_eq_true, iff_true]
    repeat' split at h
    all_goals cases h
    all_goals rfl
  | getParameters | resetParameters | abort | unknown =>
    cases h
    simp [AnswersStaleIcc, CcidResponse.status, parametersResponse, SlotStatus.ok]

end Commands

/-- In every run of a bridge the slot status of a response is the status of the slot, but for
the reader failures that are answered with the constant. -/
theorem run_icc_current_iff (reader : ρ)
    {h : List (Event (CcidBridge ρ) BridgeInput BridgeOutput)} {b : CcidBridge ρ}
    (hr : Run (bridgeMachine ρ) (new reader) h b) :
    ∀ e ∈ h, ∀ c r, e.input = .command c → e.output = .response (.ok r) →
      (r.status.icc = e.after.currentIccStatus ↔ ¬ e.before.AnswersStaleIcc c) := by
  intro e he c r hc hout
  obtain ⟨pre, _, heq, _⟩ := hr.before e he
  have hafter : e.after = (e.before.handleCommand c).2 := by
    rw [heq, hc]
    rfl
  have hres : (e.before.handleCommand c).1 = .ok r := by
    rw [heq, hc] at hout
    exact BridgeOutput.response.inj hout
  rw [hafter]
  exact handleCommand_icc_iff (Prod.ext hres rfl)

def timingOut : FakeReader := ⟨[.error (.transport "timeout")], [], []⟩

theorem power_on_failure_answers_inactive :
    ¬ ∀ h b, Run (bridgeMachine FakeReader) (new timingOut) h b →
      ∀ c r, (b.handleCommand c).1 = .ok r →
        r.status.icc = (b.handleCommand c).2.currentIccStatus := by
  intro hall
  exact absurd (hall [] _ .start (.iccPowerOn 0 1 0) _ rfl) (by decide)

theorem run_icc_after_power_on_failure :
    let b := (bridgeMachine FakeReader).final (new timingOut) [.command (.iccPowerOn 0 1 0)]
    let e := (bridgeMachine FakeReader).event b (.command (.getSlotStatus 0 2))
    e.output = .response (.ok (.slotStatus 0 2 (.ok .notPresent) 0 0)) ∧
      IccStatus.notPresent = e.after.currentIccStatus := by
  intro b e
  have hmem : e ∈ (bridgeMachine FakeReader).history (new timingOut)
      [.command (.iccPowerOn 0 1 0), .command (.getSlotStatus 0 2)] := by
    simp [Machine.history, Machine.final, e, b]
  have hout : e.output = .response (.ok (.slotStatus 0 2 (.ok .notPresent) 0 0)) := rfl
  have hpoll : (NfcReader.pollCard b.reader).1.isOk = true := rfl
  have hstale : ¬ e.before.AnswersStaleIcc (.getSlotStatus 0 2) :=
    fun h => absurd (hpoll.symm.trans h.2) (by decide)
  exact ⟨hout, (run_icc_current_iff timingOut (Machine.run_of_inputs _ _ _) e hmem _ _ rfl
    hout).mpr hstale⟩

end CcidBridge
end VirtualCcid.Ccid
