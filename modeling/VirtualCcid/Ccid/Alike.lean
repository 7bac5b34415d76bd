import VirtualCcid.Ccid.Endpoint
import VirtualCcid.Nfc.Alike

/-! Bridges over readers that answer alike, and transports over bridges that do: nothing that
leaves them tells which reader is behind. -/
namespace VirtualCcid.Ccid
open Rust Nfc Runs

section Bridges
variable {ρ ρ' : Type*} {R : ρ → ρ' → Prop}

/-- Two bridges in the same state over related readers. -/
inductive BridgesAlike (R : ρ → ρ' → Prop) : CcidBridge ρ → CcidBridge ρ' → Prop
  | mk {reader : ρ} {reader' : ρ'} (readerCapabilities : ReaderCapabilities)
      (currentCard : Option CardPresence) (slotPowered : Bool) (protocolNum : UInt8)
      (parameters : Vector UInt8 7) : R reader reader' →
      BridgesAlike R
        ⟨reader, readerCapabilities, currentCard, slotPowered, protocolNum, parameters⟩
        ⟨reader', readerCapabilities, currentCard, slotPowered, protocolNum, parameters⟩

namespace BridgesAlike
variable {b : CcidBridge ρ} {b' : CcidBridge ρ'}

theorem cardPresent (h : BridgesAlike R b b') : b.cardPresent = b'.cardPresent := by
  cases h
  rfl

theorem currentIccStatus (h : BridgesAlike R b b') : b.currentIccStatus = b'.currentIccStatus := by
  cases h
  rfl

theorem parametersResponse (h : BridgesAlike R b b') (slot seq : UInt8) (failed : Bool) :
    b.parametersResponse slot seq failed = b'.parametersResponse slot seq failed := by
  cases h
  rfl

theorem setParameters (h : BridgesAlike R b b') (slot seq protocolNum : UInt8)
    (payload : List UInt8) :
    Agree (BridgesAlike R) (b.setParameters slot seq protocolNum payload)
      (b'.setParameters slot seq protocolNum payload) := by
  cases h with
  | mk readerCapabilities currentCard slotPowered protocolNum' parameters hr =>
    unfold CcidBridge.setParameters
    split
    · exact ⟨rfl, .mk _ _ _ _ _ hr⟩
    · dsimp only
      cases copyFromSlice parameters payload with
      | error panic => exact ⟨rfl, .mk _ _ _ _ _ hr⟩
      | ok => exact ⟨rfl, .mk _ _ _ _ _ hr⟩

variable [NfcReader ρ] [NfcReader ρ']

theorem refreshCardPresence (l : Lockstep (backendMachine ρ) (backendMachine ρ') R)
    (h : BridgesAlike R b b') :
    Agree (BridgesAlike R) b.refreshCardPresence b'.refreshCardPresence := by
  cases h with
  | mk readerCapabilities currentCard slotPowered protocolNum parameters hr =>
    unfold CcidBridge.refreshCardPresence
    dsimp only
    split
    · exact ⟨rfl, .mk _ _ _ _ _ hr⟩
    · obtain ⟨result, r₁, r₁', h₁, h₁', hr₁⟩ := (pollCard_agree l hr).exists
      rw [h₁, h₁']
      rcases result with error | ⟨_ | card⟩
      · exact ⟨rfl, .mk _ _ _ _ _ hr₁⟩
      · exact ⟨rfl, .mk _ _ _ _ _ hr₁⟩
      · exact ⟨rfl, .mk _ _ _ _ _ hr₁⟩

theorem iccPowerOn (l : Lockstep (backendMachine ρ) (backendMachine ρ') R)
    (h : BridgesAlike R b b') (slot seq : UInt8) :
    Agree (BridgesAlike R) (b.iccPowerOn slot seq) (b'.iccPowerOn slot seq) := by
  cases h with
  | mk readerCapabilities currentCard slotPowered protocolNum parameters hr =>
    obtain ⟨result, r₁, r₁', h₁, h₁', hr₁⟩ := (pollCard_agree l hr).exists
    unfold CcidBridge.iccPowerOn
    rw [h₁, h₁']
    rcases result with error | ⟨_ | card⟩
    · exact ⟨rfl, .mk _ _ _ _ _ hr₁⟩
    · exact ⟨rfl, .mk _ _ _ _ _ hr₁⟩
    · dsimp only
      cases CcidBridge.buildPseudoAtr card with
      | error panic => exact ⟨rfl, .mk _ _ _ _ _ hr₁⟩
      | ok atr => exact ⟨rfl, .mk _ _ _ _ _ hr₁⟩

theorem iccPowerOff (l : Lockstep (backendMachine ρ) (backendMachine ρ') R)
    (h : BridgesAlike R b b') (slot seq : UInt8) :
    Agree (BridgesAlike R) (b.iccPowerOff slot seq) (b'.iccPowerOff slot seq) := by
  cases h with
  | mk readerCapabilities currentCard slotPowered protocolNum parameters hr =>
    obtain ⟨result, r₁, r₁', h₁, h₁', hr₁⟩ := (powerOff_agree l hr).exists
    unfold CcidBridge.iccPowerOff
    rw [h₁, h₁']
    cases result with
    | error error => exact ⟨rfl, .mk _ _ _ _ _ hr₁⟩
    | ok => exact ⟨rfl, .mk _ _ _ _ _ hr₁⟩

theorem getSlotStatus (l : Lockstep (backendMachine ρ) (backendMachine ρ') R)
    (h : BridgesAlike R b b') (slot seq : UInt8) :
    Agree (BridgesAlike R) (b.getSlotStatus slot seq) (b'.getSlotStatus slot seq) := by
  obtain ⟨result, b₁, b₁', h₁, h₁', hb₁⟩ := (h.refreshCardPresence l).exists
  unfold CcidBridge.getSlotStatus
  rw [h₁, h₁']
  cases hb₁ with
  | mk readerCapabilities currentCard slotPowered protocolNum parameters hr₁ =>
    cases result with
    | error error => exact ⟨rfl, .mk _ _ _ _ _ hr₁⟩
    | ok present =>
      by_cases hdummy : currentCard.isSome ∧ readerCapabilities.name = "dummy"
      · simp only [hdummy.1, hdummy.2, and_self, if_true]
        exact ⟨rfl, .mk _ _ _ _ _ hr₁⟩
      · simp only [hdummy, if_false]
        exact ⟨rfl, .mk _ _ _ _ _ hr₁⟩

theorem exchangeBlock (l : Lockstep (backendMachine ρ) (backendMachine ρ') R)
    (h : BridgesAlike R b b') (slot seq : UInt8) (payload : List UInt8) :
    Agree (BridgesAlike R) (b.exchangeBlock slot seq payload)
      (b'.exchangeBlock slot seq payload) := by
  cases h with
  | mk readerCapabilities currentCard slotPowered protocolNum parameters hr =>
    unfold CcidBridge.exchangeBlock
    dsimp only
    split
    · exact ⟨rfl, .mk _ _ _ _ _ hr⟩
    split
    · exact ⟨rfl, .mk _ _ _ _ _ hr⟩
    cases CcidBridge.selectAid payload with
    | error panic => exact ⟨rfl, .mk _ _ _ _ _ hr⟩
    | ok aid =>
      cases CcidBridge.normalizeApduForExchange payload with
      | error panic => exact ⟨rfl, .mk _ _ _ _ _ hr⟩
      | ok apdu =>
        dsimp only
        obtain ⟨result, r₁, r₁', h₁, h₁', hr₁⟩ := (exchangeApdu_agree l hr apdu).exists
        rw [h₁, h₁']
        cases result with
        | error error =>
          cases error with
          | targetLost message => exact ⟨rfl, .mk _ _ _ _ _ hr₁⟩
          | configuration message | transport message | protocol message | unsupported message
          | io message =>
            exact ⟨rfl, .mk _ _ _ _ _ hr₁⟩
        | ok response => exact ⟨rfl, .mk _ _ _ _ _ hr₁⟩

theorem xfrBlock (l : Lockstep (backendMachine ρ) (backendMachine ρ') R)
    (h : BridgesAlike R b b') (slot seq : UInt8) (payload : List UInt8) :
    Agree (BridgesAlike R) (b.xfrBlock slot seq payload) (b'.xfrBlock slot seq payload) := by
  have hcard : b.currentCard = b'.currentCard := by cases h; rfl
  unfold CcidBridge.xfrBlock
  rw [hcard]
  split
  · obtain ⟨result, b₁, b₁', h₁, h₁', hb₁⟩ := (h.refreshCardPresence l).exists
    rw [h₁, h₁']
    cases result with
    | error error =>
      cases hb₁ with
      | mk _ _ _ _ _ hr₁ => exact ⟨rfl, .mk _ _ _ _ _ hr₁⟩
    | ok present => exact hb₁.exchangeBlock l slot seq payload
  · exact h.exchangeBlock l slot seq payload

theorem handleCommand (l : Lockstep (backendMachine ρ) (backendMachine ρ') R)
    (h : BridgesAlike R b b') (command : CcidCommand) :
    Agree (BridgesAlike R) (b.handleCommand command) (b'.handleCommand command) := by
  cases command with
  | iccPowerOn slot seq => exact h.iccPowerOn l slot seq
  | iccPowerOff slot seq =>
    obtain ⟨hresult, hafter⟩ := h.iccPowerOff l slot seq
    exact ⟨congrArg Except.ok hresult, hafter⟩
  | getSlotStatus slot seq =>
    obtain ⟨hresult, hafter⟩ := h.getSlotStatus l slot seq
    exact ⟨congrArg Except.ok hresult, hafter⟩
  | getParameters slot seq => exact ⟨congrArg Except.ok (h.parametersResponse slot seq false), h⟩
  | resetParameters slot seq =>
    cases h with
    | mk readerCapabilities currentCard slotPowered protocolNum parameters hr =>
      exact ⟨rfl, .mk _ _ _ _ _ hr⟩
  | setParameters slot seq protocolNum payload => exact h.setParameters slot seq protocolNum payload
  | xfrBlock slot seq bwi levelParameter payload => exact h.xfrBlock l slot seq payload
  | abort slot seq =>
    have hstatus := h.currentIccStatus
    exact ⟨by simp only [CcidBridge.handleCommand, hstatus], h⟩
  | unknown messageType slot seq params payload =>
    have hstatus := h.currentIccStatus
    exact ⟨by simp only [CcidBridge.handleCommand, hstatus], h⟩

end BridgesAlike

end Bridges

section Transports
variable {β β' : Type*}

structure BridgesAgree [BridgeOps β] [BridgeOps β'] (S : β → β' → Prop) : Prop where
  handleCommand : ∀ b b' command, S b b' →
    Agree S (BridgeOps.handleCommand b command) (BridgeOps.handleCommand b' command)
  refreshCardPresence : ∀ b b', S b b' →
    Agree S (BridgeOps.refreshCardPresence b) (BridgeOps.refreshCardPresence b')
  cardPresent : ∀ b b', S b b' → BridgeOps.cardPresent b = BridgeOps.cardPresent b'
  currentIccStatus : ∀ b b', S b b' →
    BridgeOps.currentIccStatus b = BridgeOps.currentIccStatus b'

theorem bridges_agree {ρ ρ' : Type*} [NfcReader ρ] [NfcReader ρ'] {R : ρ → ρ' → Prop}
    (l : Lockstep (backendMachine ρ) (backendMachine ρ') R) : BridgesAgree (BridgesAlike R) where
  handleCommand _ _ command h := h.handleCommand l command
  refreshCardPresence _ _ h := h.refreshCardPresence l
  cardPresent _ _ h := h.cardPresent
  currentIccStatus _ _ h := h.currentIccStatus

/-- Two transports in the same state over related bridges. -/
inductive TransportsAlike (S : β → β' → Prop) : CcidTransport β → CcidTransport β' → Prop
  | mk {b : β} {b' : β'} (poisoned : Bool) (state : TransportState)
      (pendingInFrames pendingInterruptFrames : List (List UInt8)) (pendingOutBuffer : List UInt8)
      (nextFrameLen : Option ℕ) (slotPresent : Bool) (bulkAbort : Option UInt8)
      (controlAbort : Option (UInt8 × UInt8)) : S b b' →
      TransportsAlike S
        ⟨⟨b, poisoned⟩, state, pendingInFrames, pendingInterruptFrames, pendingOutBuffer,
          nextFrameLen, slotPresent, bulkAbort, controlAbort⟩
        ⟨⟨b', poisoned⟩, state, pendingInFrames, pendingInterruptFrames, pendingOutBuffer,
          nextFrameLen, slotPresent, bulkAbort, controlAbort⟩

namespace TransportsAlike
variable {S : β → β' → Prop} {t : CcidTransport β} {t' : CcidTransport β'}

theorem new {b : β} {b' : β'} (h : S b b') :
    TransportsAlike S (CcidTransport.new b) (CcidTransport.new b') :=
  .mk _ _ _ _ _ _ _ _ _ h

theorem pendingOutBuffer (h : TransportsAlike S t t') :
    t.pendingOutBuffer = t'.pendingOutBuffer := by
  cases h
  rfl

theorem updateState (h : TransportsAlike S t t') :
    TransportsAlike S t.updateState t'.updateState := by
  cases h with
  | mk _ _ _ _ _ _ _ _ _ hb =>
    unfold CcidTransport.updateState
    dsimp only
    split
    · exact .mk _ _ _ _ _ _ _ _ _ hb
    split
    · exact .mk _ _ _ _ _ _ _ _ _ hb
    · exact .mk _ _ _ _ _ _ _ _ _ hb

theorem updateSlotPresence (h : TransportsAlike S t t') (present : Bool) :
    TransportsAlike S (t.updateSlotPresence present) (t'.updateSlotPresence present) := by
  cases h with
  | mk _ _ _ _ _ _ _ _ _ hb =>
    unfold CcidTransport.updateSlotPresence
    dsimp only
    split
    · exact .mk _ _ _ _ _ _ _ _ _ hb
    · exact .mk _ _ _ _ _ _ _ _ _ hb

theorem pushInFrame (h : TransportsAlike S t t') (frame : List UInt8) :
    TransportsAlike S (t.pushInFrame frame) (t'.pushInFrame frame) := by
  cases h with
  | mk _ _ pendingInFrames _ _ _ _ _ _ hb =>
    unfold CcidTransport.pushInFrame
    by_cases hsame : pendingInFrames.getLast? = some frame
    · simp only [hsame, if_true]
      exact .mk _ _ _ _ _ _ _ _ _ hb
    by_cases hfull : pendingInFrames.length ≥ maxPendingInFrames
    · simp only [hsame, hfull, if_true, if_false]
      exact .mk _ _ _ _ _ _ _ _ _ hb
    · simp only [hsame, hfull, if_false]
      exact .mk _ _ _ _ _ _ _ _ _ hb

theorem enqueueResponse (h : TransportsAlike S t t') (response : CcidResponse)
    (cardPresent : Bool) :
    TransportsAlike S (t.enqueueResponse response cardPresent)
      (t'.enqueueResponse response cardPresent) :=
  ((h.pushInFrame response.encode).updateSlotPresence cardPresent).updateState

theorem tryTakeCompleteFrame (h : TransportsAlike S t t') :
    Agree (TransportsAlike S) t.tryTakeCompleteFrame t'.tryTakeCompleteFrame := by
  cases h with
  | mk _ _ _ _ _ _ _ _ _ hb =>
    unfold CcidTransport.tryTakeCompleteFrame
    dsimp only
    split
    · exact ⟨rfl, updateState (.mk _ _ _ _ _ _ _ _ _ hb)⟩
    split
    · exact ⟨rfl, updateState (.mk _ _ _ _ _ _ _ _ _ hb)⟩
    split
    · exact ⟨rfl, updateState (.mk _ _ _ _ _ _ _ _ _ hb)⟩
    · exact ⟨rfl, updateState (.mk _ _ _ _ _ _ _ _ _ hb)⟩

theorem handleBulkIn (h : TransportsAlike S t t') (maxLen : ℕ) :
    Agree (TransportsAlike S) (t.handleBulkIn maxLen) (t'.handleBulkIn maxLen) := by
  cases h with
  | mk _ _ pendingInFrames _ _ _ _ _ _ hb =>
    cases pendingInFrames with
    | nil =>
      constructor
      · rfl
      · simp only [CcidTransport.handleBulkIn]
        exact updateState (.mk _ _ _ _ _ _ _ _ _ hb)
    | cons frame frames =>
      by_cases hfits : frame.length ≤ maxLen
      · simp only [CcidTransport.handleBulkIn, hfits, if_true]
        constructor
        · rfl
        · exact updateState (.mk _ _ _ _ _ _ _ _ _ hb)
      · simp only [CcidTransport.handleBulkIn, hfits, if_false]
        constructor
        · rfl
        · dsimp only
          exact updateState (.mk _ _ _ _ _ _ _ _ _ hb)

theorem popInterruptFrame (h : TransportsAlike S t t') :
    Agree (TransportsAlike S) t.popInterruptFrame t'.popInterruptFrame := by
  cases h with
  | mk _ _ _ _ _ _ _ _ _ hb => exact ⟨rfl, .mk _ _ _ _ _ _ _ _ _ hb⟩

theorem lock (h : TransportsAlike S t t') :
    (t.bridge.lock = .error () ∧ t'.bridge.lock = .error ()) ∨
      ∃ b b', t.bridge.lock = .ok b ∧ t'.bridge.lock = .ok b' ∧ S b b' := by
  cases h with
  | mk poisoned _ _ _ _ _ _ _ _ hb =>
    cases poisoned with
    | true => exact Or.inl ⟨rfl, rfl⟩
    | false => exact Or.inr ⟨_, _, rfl, rfl, hb⟩

theorem setBridge (h : TransportsAlike S t t') {b : β} {b' : β'} (hb : S b b') (poisoned : Bool) :
    TransportsAlike S { t with bridge := ⟨b, poisoned⟩ } { t' with bridge := ⟨b', poisoned⟩ } := by
  cases h with
  | mk => exact .mk _ _ _ _ _ _ _ _ _ hb

variable [BridgeOps β] [BridgeOps β']

theorem lockedCommand (a : BridgesAgree S) (h : TransportsAlike S t t') (command : CcidCommand) :
    Agree (TransportsAlike S) (t.lockedCommand command) (t'.lockedCommand command) := by
  unfold CcidTransport.lockedCommand
  rcases h.lock with ⟨hlock, hlock'⟩ | ⟨b, b', hlock, hlock', hb⟩
  · rw [hlock, hlock']
    exact ⟨rfl, h⟩
  · obtain ⟨result, b₁, b₁', h₁, h₁', hb₁⟩ := (a.handleCommand b b' command hb).exists
    rw [hlock, hlock']
    dsimp only
    rw [h₁, h₁']
    cases result with
    | error panic => exact ⟨rfl, h.setBridge hb₁ true⟩
    | ok response =>
      have hpresent := a.cardPresent b₁ b₁' hb₁
      exact ⟨by simp only [hpresent], h.setBridge hb₁ false⟩

theorem executeLocked (a : BridgesAgree S) (h : TransportsAlike S t t') (command : CcidCommand) :
    Agree (TransportsAlike S) (t.executeLocked command) (t'.executeLocked command) := by
  obtain ⟨result, t₁, t₁', h₁, h₁', ht₁⟩ := (h.lockedCommand a command).exists
  unfold CcidTransport.executeLocked
  rw [h₁, h₁']
  cases result with
  | error fault => exact ⟨rfl, ht₁⟩
  | ok answer => exact ⟨rfl, ht₁.enqueueResponse answer.1 answer.2⟩

theorem finishAbort (a : BridgesAgree S) (h : TransportsAlike S t t') (slot seq : UInt8) :
    Agree (TransportsAlike S) (t.finishAbort slot seq) (t'.finishAbort slot seq) := by
  cases h with
  | mk _ _ _ _ _ _ _ _ _ hb => exact executeLocked a (.mk _ _ _ _ _ _ _ _ _ hb) (.abort slot seq)

theorem expectAbort (a : BridgesAgree S) (h : TransportsAlike S t t') (slot seq : UInt8) :
    Agree (TransportsAlike S) (t.expectAbort slot seq) (t'.expectAbort slot seq) := by
  have habort : t.bulkAbort = t'.bulkAbort := by cases h; rfl
  unfold CcidTransport.expectAbort
  rw [habort]
  split
  · exact ⟨rfl, h⟩
  split
  · obtain ⟨result, t₁, t₁', h₁, h₁', ht₁⟩ := (h.finishAbort a slot seq).exists
    rw [h₁, h₁']
    rcases result with fault | ⟨⟩
    · cases fault with
      | error error => exact ⟨rfl, ht₁⟩
      | panic panic => exact ⟨rfl, ht₁⟩
      | diverge => exact ⟨rfl, ht₁⟩
    · exact ⟨rfl, ht₁⟩
  · cases h with
    | mk _ _ _ _ _ _ _ _ _ hb => exact ⟨rfl, .mk _ _ _ _ _ _ _ _ _ hb⟩

theorem queueAbortedResponse (a : BridgesAgree S) (h : TransportsAlike S t t')
    (command : CcidCommand) :
    Agree (TransportsAlike S) (t.queueAbortedResponse command)
      (t'.queueAbortedResponse command) := by
  unfold CcidTransport.queueAbortedResponse
  rcases h.lock with ⟨hlock, hlock'⟩ | ⟨b, b', hlock, hlock', hb⟩
  · rw [hlock, hlock']
    exact ⟨rfl, h⟩
  · rw [hlock, hlock']
    dsimp only
    rw [a.currentIccStatus b b' hb, a.cardPresent b b' hb]
    exact ⟨rfl, ((h.pushInFrame _).updateSlotPresence _).updateState⟩

theorem handleFrame (a : BridgesAgree S) (h : TransportsAlike S t t') (frame : List UInt8) :
    Agree (TransportsAlike S) (t.handleFrame frame) (t'.handleFrame frame) := by
  have habort : t.controlAbort = t'.controlAbort := by cases h; rfl
  cases hd : CcidCommand.decode frame with
  | error error =>
    rw [CcidTransport.handleFrame, CcidTransport.handleFrame, hd]
    exact ⟨rfl, h⟩
  | ok command =>
    cases hc : t'.controlAbort with
    | some expected =>
      rw [CcidTransport.handleFrame, CcidTransport.handleFrame, hd, habort, hc]
      dsimp only
      split
      · exact h.finishAbort a expected.1 expected.2
      · exact h.queueAbortedResponse a command
    | none =>
      cases ha : command.isAbort with
      | true =>
        cases command with
        | abort slot seq =>
          rw [CcidTransport.handleFrame, CcidTransport.handleFrame, hd, habort, hc]
          cases h with
          | mk _ _ _ _ _ _ _ _ _ hb => exact ⟨rfl, .mk _ _ _ _ _ _ _ _ _ hb⟩
        | _ => cases ha
      | false =>
        rw [CcidTransport.handleFrame_command (habort.trans hc) hd ha,
          CcidTransport.handleFrame_command hc hd ha]
        cases h with
        | mk _ _ _ _ _ _ _ _ _ hb => exact executeLocked a (.mk _ _ _ _ _ _ _ _ _ hb) command

theorem bulkOutLoop (a : BridgesAgree S) (fuel : ℕ) (h : TransportsAlike S t t') :
    Agree (TransportsAlike S) (CcidTransport.bulkOutLoop fuel t)
      (CcidTransport.bulkOutLoop fuel t') := by
  induction fuel generalizing t t' with
  | zero => exact ⟨rfl, h⟩
  | succ fuel ih =>
    unfold CcidTransport.bulkOutLoop
    obtain ⟨taken, t₁, t₁', h₁, h₁', ht₁⟩ := h.tryTakeCompleteFrame.exists
    rw [h₁, h₁']
    rcases taken with fault | ⟨_ | frame⟩
    · exact ⟨rfl, ht₁⟩
    · exact ⟨rfl, ht₁⟩
    · dsimp only
      obtain ⟨result, t₂, t₂', h₂, h₂', ht₂⟩ := (ht₁.handleFrame a frame).exists
      rw [h₂, h₂']
      cases result with
      | error fault => exact ⟨rfl, ht₂⟩
      | ok => exact ih ht₂

theorem handleBulkOut (a : BridgesAgree S) (h : TransportsAlike S t t') (payload : List UInt8) :
    Agree (TransportsAlike S) (t.handleBulkOut payload) (t'.handleBulkOut payload) := by
  have happended : TransportsAlike S
      { t with pendingOutBuffer := t.pendingOutBuffer ++ payload }.updateState
      { t' with pendingOutBuffer := t'.pendingOutBuffer ++ payload }.updateState := by
    cases h with
    | mk _ _ _ _ _ _ _ _ _ hb => exact updateState (.mk _ _ _ _ _ _ _ _ _ hb)
  unfold CcidTransport.handleBulkOut
  dsimp only
  rw [happended.pendingOutBuffer]
  exact happended.bulkOutLoop a _

theorem handleInterruptIn (a : BridgesAgree S) (h : TransportsAlike S t t') :
    Agree (TransportsAlike S) t.handleInterruptIn t'.handleInterruptIn := by
  unfold CcidTransport.handleInterruptIn
  rcases h.lock with ⟨hlock, hlock'⟩ | ⟨b, b', hlock, hlock', hb⟩
  · rw [hlock, hlock']
    exact h.popInterruptFrame
  · obtain ⟨result, b₁, b₁', h₁, h₁', hb₁⟩ := (a.refreshCardPresence b b' hb).exists
    rw [hlock, hlock']
    dsimp only
    rw [h₁, h₁']
    cases result with
    | error error => exact (h.setBridge hb₁ false).popInterruptFrame
    | ok present => exact ((h.setBridge hb₁ false).updateSlotPresence present).popInterruptFrame

theorem handleControlRequest (a : BridgesAgree S) (h : TransportsAlike S t t')
    (requestType request : UInt8) (value : UInt16) :
    Agree (TransportsAlike S) (t.handleControlRequest requestType request value)
      (t'.handleControlRequest requestType request value) := by
  unfold CcidTransport.handleControlRequest
  split
  · exact ⟨rfl, h⟩
  split
  · exact ⟨rfl, h⟩
  split
  · dsimp only
    obtain ⟨result, t₁, t₁', h₁, h₁', ht₁⟩ :=
      (h.expectAbort a (u16ToLeBytes value).1 (u16ToLeBytes value).2).exists
    rw [h₁, h₁']
    cases result with
    | error fault => exact ⟨rfl, ht₁⟩
    | ok => exact ⟨rfl, ht₁⟩
  · exact ⟨rfl, h⟩

end TransportsAlike

variable [BridgeOps β] [BridgeOps β']

theorem BridgesAgree.transport {S : β → β' → Prop} (a : BridgesAgree S) :
    Lockstep (transportMachine β) (transportMachine β') (TransportsAlike S) := by
  intro t t' op h
  cases op with
  | controlRequest requestType request value =>
    obtain ⟨hresult, hafter⟩ := h.handleControlRequest a requestType request value
    exact ⟨congrArg TransportReply.controlRequest hresult, hafter⟩
  | bulkOut payload =>
    obtain ⟨hresult, hafter⟩ := h.handleBulkOut a payload
    exact ⟨congrArg TransportReply.bulkOut hresult, hafter⟩
  | bulkIn maxLen =>
    obtain ⟨hresult, hafter⟩ := h.handleBulkIn maxLen
    exact ⟨congrArg TransportReply.bulkIn hresult, hafter⟩
  | interruptIn =>
    obtain ⟨hresult, hafter⟩ := h.handleInterruptIn a
    exact ⟨congrArg TransportReply.interruptIn hresult, hafter⟩

end Transports

end VirtualCcid.Ccid
