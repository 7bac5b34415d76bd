import VirtualCcid.Ccid.Inputs
import VirtualCcid.Nfc.Backend

/-! What the bridge asks of its reader: every run of the bridge contains a run of the reader, input
by input by what each of them may call. -/
namespace VirtualCcid.Ccid
open Rust Nfc Runs

/-- The calls for the exchange of a block: its APDU as it is normalised, once at most. -/
def ExchangeCalls (payload : List UInt8) (ops : List ReaderOp) : Prop :=
  ops = [] ∨ ∃ apdu, CcidBridge.normalizeApduForExchange payload = .ok apdu ∧
    ops = [.exchangeApdu apdu]

/-- What an input may call. Only a block is exchanged, behind a poll if there is no card; a power
off is the only command that switches the field off, and commands about parameters, aborts and
unknown messages call nothing. -/
def BridgeInput.Calls : BridgeInput → List ReaderOp → Prop
  | .refresh, ops | .command (.getSlotStatus ..), ops => ops = [] ∨ ops = [.pollCard]
  | .command (.iccPowerOn ..), ops => ops = [.pollCard]
  | .command (.iccPowerOff ..), ops => ops = [.powerOff]
  | .command (.xfrBlock _ _ _ _ payload), ops =>
    ∃ polls exchanges, (polls = [] ∨ polls = [.pollCard]) ∧ ExchangeCalls payload exchanges ∧
      ops = polls ++ exchanges
  | .command (.getParameters ..), ops | .command (.resetParameters ..), ops
  | .command (.setParameters ..), ops | .command (.abort ..), ops
  | .command (.unknown ..), ops => ops = []

namespace CcidBridge

/-- Only the class of a `GET RESPONSE` is changed. -/
theorem normalizeApduForExchange_ok {payload apdu : List UInt8}
    (h : normalizeApduForExchange payload = .ok apdu) :
    apdu = if payload[1]? = some apduGetResponseIns then payload.set 0 0x00 else payload := by
  unfold normalizeApduForExchange at h
  by_cases hi : payload[1]? = some apduGetResponseIns
  · have hlen : 0 < payload.length := by
      have := (List.getElem?_eq_some_iff.mp hi).1
      omega
    simp only [hi, if_true, index_eq_ok hlen] at h
    rw [if_pos hi]
    exact (Except.ok.inj h).symm
  · simp only [hi, if_false] at h
    rw [if_neg hi]
    exact (Except.ok.inj h).symm

variable {ρ : Type*} [NfcReader ρ]

theorem refreshCardPresence_calls (b : CcidBridge ρ) :
    ∃ ops, (ops = [] ∨ ops = [.pollCard]) ∧
      b.refreshCardPresence.2.reader = (backendMachine ρ).final b.reader ops := by
  have hpoll : (backendMachine ρ).final b.reader [.pollCard] = (NfcReader.pollCard b.reader).2 :=
    rfl
  unfold refreshCardPresence
  split
  · exact ⟨[], Or.inl rfl, rfl⟩
  · split
    all_goals
      next heq =>
      refine ⟨[.pollCard], Or.inr rfl, ?_⟩
      rw [hpoll, heq]

theorem exchangeBlock_calls (b : CcidBridge ρ) (slot seq : UInt8) (payload : List UInt8) :
    ∃ ops, ExchangeCalls payload ops ∧
      (b.exchangeBlock slot seq payload).2.reader = (backendMachine ρ).final b.reader ops := by
  unfold exchangeBlock
  split
  · exact ⟨[], Or.inl rfl, rfl⟩
  split
  · exact ⟨[], Or.inl rfl, rfl⟩
  split
  · exact ⟨[], Or.inl rfl, rfl⟩
  split
  · exact ⟨[], Or.inl rfl, rfl⟩
  next apdu hapdu =>
  have hexchange : (backendMachine ρ).final b.reader [.exchangeApdu apdu] =
      (NfcReader.exchangeApdu b.reader apdu).2 := rfl
  split
  all_goals
    next heq =>
    refine ⟨[.exchangeApdu apdu], Or.inr ⟨apdu, hapdu, rfl⟩, ?_⟩
    rw [hexchange, heq]

theorem xfrBlock_calls (b : CcidBridge ρ) (slot seq : UInt8) (payload : List UInt8) :
    ∃ polls exchanges, (polls = [] ∨ polls = [.pollCard]) ∧ ExchangeCalls payload exchanges ∧
      (b.xfrBlock slot seq payload).2.reader =
        (backendMachine ρ).final b.reader (polls ++ exchanges) := by
  unfold xfrBlock
  split
  · obtain ⟨polls, hpolls, hreader⟩ := b.refreshCardPresence_calls
    split
    · next refreshed heq =>
      rw [heq] at hreader
      obtain ⟨exchanges, hexchanges, hafter⟩ := refreshed.exchangeBlock_calls slot seq payload
      refine ⟨polls, exchanges, hpolls, hexchanges, ?_⟩
      rw [Machine.final_append, ← hreader]
      exact hafter
    · next heq =>
      rw [heq] at hreader
      refine ⟨polls, [], hpolls, Or.inl rfl, ?_⟩
      rw [List.append_nil]
      exact hreader
  · obtain ⟨exchanges, hexchanges, hafter⟩ := b.exchangeBlock_calls slot seq payload
    exact ⟨[], exchanges, Or.inl rfl, hexchanges, hafter⟩

end CcidBridge

/-- Every run of the bridge contains a run of its reader. -/
theorem bridge_drives_reader (ρ : Type*) [NfcReader ρ] :
    Drives (bridgeMachine ρ) (backendMachine ρ) CcidBridge.reader BridgeInput.Calls := by
  constructor
  intro b i
  cases i with
  | refresh => exact b.refreshCardPresence_calls
  | command c =>
    cases c with
    | iccPowerOn slot seq powerSelect => exact ⟨_, rfl, b.iccPowerOn_reader slot seq⟩
    | iccPowerOff slot seq => exact ⟨_, rfl, b.iccPowerOff_reader slot seq⟩
    | getSlotStatus slot seq =>
      obtain ⟨ops, hops, hreader⟩ := b.refreshCardPresence_calls
      exact ⟨ops, hops, (b.getSlotStatus_reader slot seq).trans hreader⟩
    | xfrBlock slot seq bwi levelParameter payload =>
      obtain ⟨polls, exchanges, hpolls, hexchanges, hreader⟩ := b.xfrBlock_calls slot seq payload
      exact ⟨_, ⟨polls, exchanges, hpolls, hexchanges, rfl⟩, hreader⟩
    | setParameters slot seq protocolNum payload =>
      exact ⟨[], rfl, b.setParameters_reader slot seq protocolNum payload⟩
    | getParameters | resetParameters | abort | unknown => exact ⟨[], rfl, rfl⟩

theorem BridgeInput.Calls.exchange {i : BridgeInput} {ops : List ReaderOp} (h : i.Calls ops)
    {apdu : List UInt8} (hmem : .exchangeApdu apdu ∈ ops) :
    ∃ slot seq bwi levelParameter payload,
      i = .command (.xfrBlock slot seq bwi levelParameter payload) ∧
      CcidBridge.normalizeApduForExchange payload = .ok apdu := by
  have hpoll : ∀ polls : List ReaderOp, (polls = [] ∨ polls = [.pollCard]) →
      .exchangeApdu apdu ∉ polls := by
    intro polls hpolls
    rcases hpolls with rfl | rfl
    · simp
    · simp
  cases i with
  | refresh => exact absurd hmem (hpoll ops h)
  | command c =>
    cases c with
    | getSlotStatus => exact absurd hmem (hpoll ops h)
    | xfrBlock slot seq bwi levelParameter payload =>
      obtain ⟨polls, exchanges, hpolls, hexchanges, rfl⟩ := h
      rcases List.mem_append.mp hmem with hmem | hmem
      · exact absurd hmem (hpoll polls hpolls)
      rcases hexchanges with rfl | ⟨apdu', hapdu, rfl⟩
      · cases hmem
      · cases List.mem_singleton.mp hmem
        exact ⟨slot, seq, bwi, levelParameter, payload, rfl, hapdu⟩
    | iccPowerOn | iccPowerOff =>
      obtain rfl : ops = [_] := h
      cases List.mem_singleton.mp hmem
    | getParameters | resetParameters | setParameters | abort | unknown =>
      obtain rfl : ops = [] := h
      cases hmem

theorem BridgeInput.Calls.polls {i : BridgeInput} {ops : List ReaderOp} (h : i.Calls ops)
    (hoff : ∀ slot seq, i ≠ .command (.iccPowerOff slot seq))
    (hblock : ∀ slot seq bwi levelParameter payload,
      i ≠ .command (.xfrBlock slot seq bwi levelParameter payload)) :
    ∀ op ∈ ops, op = .pollCard := by
  have hpoll : (ops = [] ∨ ops = [.pollCard]) → ∀ op ∈ ops, op = .pollCard := by
    rintro (rfl | rfl) op hop
    · cases hop
    · exact List.mem_singleton.mp hop
  cases i with
  | refresh => exact hpoll h
  | command c =>
    cases c with
    | getSlotStatus => exact hpoll h
    | iccPowerOn => exact hpoll (Or.inr h)
    | iccPowerOff slot seq => exact absurd rfl (hoff slot seq)
    | xfrBlock slot seq bwi levelParameter payload =>
      exact absurd rfl (hblock slot seq bwi levelParameter payload)
    | getParameters | resetParameters | setParameters | abort | unknown => exact hpoll (Or.inl h)

end VirtualCcid.Ccid
