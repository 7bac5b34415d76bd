import VirtualCcid.Ccid.Bridge

/-! The CCID transport: bulk OUT reassembly, the queues of the two IN endpoints and the two
halves of an abort, over a bridge behind a lock. -/
namespace VirtualCcid.Ccid
open Rust Nfc Runs

def ccidMaxMessageLength : ℕ := 3072
def ccidGetClockFrequencies : UInt8 := 0x02
def ccidGetDataRates : UInt8 := 0x03
def ccidAbort : UInt8 := 0x01
def ccidClockFrequencyKhz : List UInt8 := [0xfc, 0x0d, 0x00, 0x00]
def ccidDataRateBps : List UInt8 := [0x80, 0x25, 0x00, 0x00]
def ccidNotifySlotChange : UInt8 := 0x50
def cmdAbortedError : UInt8 := 0xff
def maxPendingInFrames : ℕ := 32

inductive ErrorKind where
  | unsupported
  | invalidData
  | other
  deriving DecidableEq, Repr

structure IoError where
  kind : ErrorKind
  message : String
  deriving DecidableEq, Repr

def lockPoisoned : IoError := ⟨.other, "CCID bridge lock poisoned"⟩

/-- What the transport calls on its bridge. -/
class BridgeOps (β : Type*) where
  handleCommand : β → CcidCommand → Except Panic CcidResponse × β
  cardPresent : β → Bool
  refreshCardPresence : β → Except ReaderError Bool × β
  currentIccStatus : β → IccStatus

instance {ρ : Type*} [NfcReader ρ] : BridgeOps (CcidBridge ρ) where
  handleCommand := CcidBridge.handleCommand
  cardPresent := CcidBridge.cardPresent
  refreshCardPresence := CcidBridge.refreshCardPresence
  currentIccStatus := CcidBridge.currentIccStatus

inductive TransportState where
  | idle
  | receiving
  | readyToSend
  deriving DecidableEq, Repr

structure CcidTransport (β : Type*) where
  bridge : Mutex β
  state : TransportState
  pendingInFrames : List (List UInt8)
  pendingInterruptFrames : List (List UInt8)
  pendingOutBuffer : List UInt8
  nextFrameLen : Option ℕ
  slotPresent : Bool
  bulkAbort : Option UInt8
  controlAbort : Option (UInt8 × UInt8)

namespace CcidTransport
variable {β : Type*}

def new (bridge : β) : CcidTransport β where
  bridge := .new bridge
  state := .idle
  pendingInFrames := []
  pendingInterruptFrames := []
  pendingOutBuffer := []
  nextFrameLen := none
  slotPresent := false
  bulkAbort := none
  controlAbort := none

def updateState (t : CcidTransport β) : CcidTransport β :=
  if t.pendingInFrames ≠ [] then { t with state := .readyToSend }
  else if t.pendingOutBuffer = [] then { t with nextFrameLen := none, state := .idle }
  else { t with state := .receiving }

def updateSlotPresence (t : CcidTransport β) (present : Bool) : CcidTransport β :=
  if t.slotPresent = present then
    { t with
      pendingInterruptFrames := t.pendingInterruptFrames ++
        [[ccidNotifySlotChange, if present then 0b00000001 else 0b00000000]] }
  else
    { t with
      slotPresent := present
      pendingInterruptFrames := t.pendingInterruptFrames ++
        [[ccidNotifySlotChange, if present then 0b00000011 else 0b00000010]] }

def pushInFrame (t : CcidTransport β) (frame : List UInt8) : CcidTransport β :=
  if t.pendingInFrames.getLast? = some frame then t
  else
    let t := if t.pendingInFrames.length ≥ maxPendingInFrames then { t with pendingInFrames := [] }
      else t
    { t with pendingInFrames := t.pendingInFrames ++ [frame] }

def enqueueResponse (t : CcidTransport β) (response : CcidResponse) (cardPresent : Bool) :
    CcidTransport β :=
  ((t.pushInFrame response.encode).updateSlotPresence cardPresent).updateState

def tryTakeCompleteFrame (t : CcidTransport β) :
    Except (Fault IoError) (Option (List UInt8)) × CcidTransport β :=
  if h : t.pendingOutBuffer.length < 10 then
    (.ok none, { t with nextFrameLen := none }.updateState)
  else
    let frameLen := t.nextFrameLen.getD (10 + u32FromLeBytes t.pendingOutBuffer[1]
      t.pendingOutBuffer[2] t.pendingOutBuffer[3] t.pendingOutBuffer[4])
    -- The length is checked only when it is read from the header.
    if t.nextFrameLen.isNone ∧ frameLen > ccidMaxMessageLength + 10 then
      (.error (.error ⟨.invalidData, s!"CCID frame length {frameLen} exceeds configured maximum"⟩),
        { t with pendingOutBuffer := [], nextFrameLen := none }.updateState)
    else if t.pendingOutBuffer.length < frameLen then
      (.ok none, { t with nextFrameLen := some frameLen }.updateState)
    else
      (.ok (some (t.pendingOutBuffer.take frameLen)),
        { t with
          pendingOutBuffer := t.pendingOutBuffer.drop frameLen
          nextFrameLen := none }.updateState)

def handleBulkIn (t : CcidTransport β) (maxLen : ℕ) : List UInt8 × CcidTransport β :=
  match t.pendingInFrames with
  | [] => ([], t.updateState)
  | frame :: frames =>
    if frame.length ≤ maxLen then
      -- A transfer that fills its last packet ends with an empty one.
      let frames := if maxLen ≠ 0 ∧ frame ≠ [] ∧ frame.length % maxLen = 0 then [] :: frames
        else frames
      (frame, { t with pendingInFrames := frames }.updateState)
    else
      (frame.take maxLen, { t with pendingInFrames := frame.drop maxLen :: frames }.updateState)

/-- `pending_interrupt_frames.pop_front().unwrap_or_default()`. -/
def popInterruptFrame (t : CcidTransport β) : List UInt8 × CcidTransport β :=
  (t.pendingInterruptFrames.headD [],
    { t with pendingInterruptFrames := t.pendingInterruptFrames.tail })

variable [BridgeOps β]

/-- The block under the lock: handle a command and read the presence it leaves. -/
def lockedCommand (t : CcidTransport β) (command : CcidCommand) :
    Except (Fault IoError) (CcidResponse × Bool) × CcidTransport β :=
  match t.bridge.lock with
  | .error () => (.error (.error lockPoisoned), t)
  | .ok bridge =>
    match BridgeOps.handleCommand bridge command with
    | (.error panic, bridge) => (.error (.panic panic), { t with bridge := ⟨bridge, true⟩ })
    | (.ok response, bridge) =>
      (.ok (response, BridgeOps.cardPresent bridge), { t with bridge := .new bridge })

def finishAbort (t : CcidTransport β) (slot seq : UInt8) :
    Except (Fault IoError) Unit × CcidTransport β :=
  let t := { t with
    bulkAbort := none
    controlAbort := none
    pendingOutBuffer := []
    nextFrameLen := none
    pendingInFrames := [] }
  match t.lockedCommand (.abort slot seq) with
  | (.error fault, t) => (.error fault, t)
  | (.ok (response, cardPresent), t) => (.ok (), t.enqueueResponse response cardPresent)

def expectAbort (t : CcidTransport β) (slot seq : UInt8) :
    Except (Fault IoError) Unit × CcidTransport β :=
  if slot ≠ 0 then (.ok (), t)
  else if t.bulkAbort = some seq then
    match t.finishAbort slot seq with
    -- A failure is logged only.
    | (.error (.error _), t) => (.ok (), t)
    | finished => finished
  else (.ok (), { t with controlAbort := some (slot, seq) })

def queueAbortedResponse (t : CcidTransport β) (command : CcidCommand) :
    Except (Fault IoError) Unit × CcidTransport β :=
  match t.bridge.lock with
  | .error () => (.error (.error lockPoisoned), t)
  | .ok bridge =>
    let response := CcidResponse.slotStatus command.slot command.seq
      ⟨BridgeOps.currentIccStatus bridge, .failed⟩ cmdAbortedError 0
    (.ok (), ((t.pushInFrame response.encode).updateSlotPresence
      (BridgeOps.cardPresent bridge)).updateState)

/-- The body of the loop of `handle_bulk_out`. -/
def handleFrame (t : CcidTransport β) (frame : List UInt8) :
    Except (Fault IoError) Unit × CcidTransport β :=
  match CcidCommand.decode frame with
  | .error error => (.error (.error ⟨.invalidData, error.toString⟩), t)
  | .ok command =>
    match t.controlAbort with
    | some (slot, seq) =>
      if command = .abort slot seq then t.finishAbort slot seq
      else t.queueAbortedResponse command
    | none =>
      let t := { t with bulkAbort := none }
      match command with
      -- The slot of the message is not looked at.
      | .abort _ seq => (.ok (), { t with bulkAbort := some seq })
      | command =>
        match t.lockedCommand command with
        | (.error fault, t) => (.error fault, t)
        | (.ok (response, cardPresent), t) => (.ok (), t.enqueueResponse response cardPresent)

/-- The loop of `handle_bulk_out`, for so many frames. -/
def bulkOutLoop : ℕ → CcidTransport β → Except (Fault IoError) Unit × CcidTransport β
  | 0, t => (.error .diverge, t)
  | fuel + 1, t =>
    match t.tryTakeCompleteFrame with
    | (.error fault, t) => (.error fault, t)
    | (.ok none, t) => (.ok (), t)
    | (.ok (some frame), t) =>
      match t.handleFrame frame with
      | (.error fault, t) => (.error fault, t)
      | (.ok (), t) => bulkOutLoop fuel t

/-- A frame has ten bytes at least, so a loop that takes more frames than there are bytes would
never end. -/
def handleBulkOut (t : CcidTransport β) (payload : List UInt8) :
    Except (Fault IoError) Unit × CcidTransport β :=
  let t := { t with pendingOutBuffer := t.pendingOutBuffer ++ payload }.updateState
  bulkOutLoop (t.pendingOutBuffer.length + 1) t

def handleInterruptIn (t : CcidTransport β) : List UInt8 × CcidTransport β :=
  match t.bridge.lock with
  | .error () => t.popInterruptFrame
  | .ok bridge =>
    match BridgeOps.refreshCardPresence bridge with
    | (.ok cardPresent, bridge) =>
      ({ t with bridge := .new bridge }.updateSlotPresence cardPresent).popInterruptFrame
    | (.error _, bridge) => { t with bridge := .new bridge }.popInterruptFrame

def handleControlRequest (t : CcidTransport β) (requestType request : UInt8) (value : UInt16) :
    Except (Fault IoError) (List UInt8) × CcidTransport β :=
  if requestType = 0xa1 ∧ request = ccidGetClockFrequencies then (.ok ccidClockFrequencyKhz, t)
  else if requestType = 0xa1 ∧ request = ccidGetDataRates then (.ok ccidDataRateBps, t)
  else if requestType = 0x21 ∧ request = ccidAbort then
    let (slot, seq) := u16ToLeBytes value
    match t.expectAbort slot seq with
    | (.error fault, t) => (.error fault, t)
    | (.ok (), t) => (.ok [], t)
  else
    (.error (.error ⟨.unsupported, s!"unsupported CCID control request " ++
      s!"type=0x{hex02 requestType} request=0x{hex02 request}"⟩), t)

/-- A command that the bridge answers, with the transport it finds. -/
structure Exchange (β : Type*) where
  before : CcidTransport β
  command : CcidCommand
  response : CcidResponse

def exchange? (t : CcidTransport β) (frame : List UInt8) : Option (Exchange β) :=
  match CcidCommand.decode frame with
  | .error _ => none
  | .ok command =>
    match (BridgeOps.handleCommand t.bridge.value command).1 with
    | .error _ => none
    | .ok response => some ⟨t, command, response⟩

/-- What the bridge is asked and answers in the turns of `bulkOutLoop`, when no abort is about. -/
def loopExchanges : ℕ → CcidTransport β → List (Exchange β)
  | 0, _ => []
  | fuel + 1, t =>
    match t.tryTakeCompleteFrame with
    | (.ok (some frame), t) =>
      (t.exchange? frame).toList ++
        match t.handleFrame frame with
        | (.error _, _) => []
        | (.ok (), t) => loopExchanges fuel t
    | _ => []

def exchanges (t : CcidTransport β) (payload : List UInt8) : List (Exchange β) :=
  let t := { t with pendingOutBuffer := t.pendingOutBuffer ++ payload }.updateState
  loopExchanges (t.pendingOutBuffer.length + 1) t

end CcidTransport

inductive TransportOp where
  | controlRequest (requestType request : UInt8) (value : UInt16)
  | bulkOut (payload : List UInt8)
  | bulkIn (maxLen : ℕ)
  | interruptIn
  deriving DecidableEq, Repr

inductive TransportReply where
  | controlRequest (result : Except (Fault IoError) (List UInt8))
  | bulkOut (result : Except (Fault IoError) Unit)
  | bulkIn (bytes : List UInt8)
  | interruptIn (bytes : List UInt8)

/-- The call returns, be it with an `Err`. A call that panics unwinds through the handler of the
interface and poisons the lock that this is behind, so no further call reaches the transport. -/
def TransportReply.Returns : TransportReply → Prop
  | .controlRequest (.error (.panic _)) | .controlRequest (.error .diverge)
  | .bulkOut (.error (.panic _)) | .bulkOut (.error .diverge) => False
  | _ => True

instance : DecidablePred TransportReply.Returns
  | .controlRequest (.error (.panic _)) | .controlRequest (.error .diverge) => isFalse id
  | .bulkOut (.error (.panic _)) | .bulkOut (.error .diverge) => isFalse id
  | .controlRequest (.ok _) | .controlRequest (.error (.error _)) => isTrue trivial
  | .bulkOut (.ok _) | .bulkOut (.error (.error _)) => isTrue trivial
  | .bulkIn _ | .interruptIn _ => isTrue trivial

def transportMachine (β : Type*) [BridgeOps β] :
    Machine (CcidTransport β) TransportOp TransportReply where
  step
    | t, .controlRequest requestType request value =>
      (.controlRequest (t.handleControlRequest requestType request value).1,
        (t.handleControlRequest requestType request value).2)
    | t, .bulkOut payload => (.bulkOut (t.handleBulkOut payload).1, (t.handleBulkOut payload).2)
    | t, .bulkIn maxLen => (.bulkIn (t.handleBulkIn maxLen).1, (t.handleBulkIn maxLen).2)
    | t, .interruptIn => (.interruptIn t.handleInterruptIn.1, t.handleInterruptIn.2)

namespace CcidTransport
variable {β : Type*}

theorem updateState_eq (t : CcidTransport β) :
    ∃ nextFrameLen state, t.updateState = { t with nextFrameLen, state } := by
  unfold updateState
  split
  · exact ⟨_, _, rfl⟩
  split <;> exact ⟨_, _, rfl⟩

theorem updateState_pendingInFrames (t : CcidTransport β) :
    t.updateState.pendingInFrames = t.pendingInFrames := by
  obtain ⟨nextFrameLen, state, heq⟩ := t.updateState_eq
  rw [heq]

theorem tryTakeCompleteFrame_eq (t : CcidTransport β) :
    ∃ pendingOutBuffer nextFrameLen state,
      t.tryTakeCompleteFrame.2 = { t with pendingOutBuffer, nextFrameLen, state } := by
  have h : ∀ pendingOutBuffer nextFrameLen, ∃ pendingOutBuffer' nextFrameLen' state,
      { t with pendingOutBuffer, nextFrameLen }.updateState =
        { t with
          pendingOutBuffer := pendingOutBuffer', nextFrameLen := nextFrameLen', state } := by
    intro pendingOutBuffer nextFrameLen
    obtain ⟨nextFrameLen', state, hu⟩ :=
      updateState_eq { t with pendingOutBuffer, nextFrameLen }
    exact ⟨pendingOutBuffer, nextFrameLen', state, hu⟩
  unfold tryTakeCompleteFrame
  split
  · exact h t.pendingOutBuffer _
  dsimp only
  split
  · exact h _ _
  split <;> exact h _ _

theorem handleBulkIn_eq (t : CcidTransport β) (maxLen : ℕ) :
    ∃ pendingInFrames nextFrameLen state,
      (t.handleBulkIn maxLen).2 = { t with pendingInFrames, nextFrameLen, state } := by
  unfold handleBulkIn
  split
  · obtain ⟨nextFrameLen, state, heq⟩ := t.updateState_eq
    exact ⟨_, nextFrameLen, state, heq⟩
  · next frame frames _ =>
    dsimp only
    split
    · let pendingInFrames :=
        if maxLen ≠ 0 ∧ frame ≠ [] ∧ frame.length % maxLen = 0 then [] :: frames else frames
      obtain ⟨nextFrameLen, state, heq⟩ := updateState_eq { t with pendingInFrames }
      exact ⟨pendingInFrames, nextFrameLen, state, heq⟩
    · let pendingInFrames := frame.drop maxLen :: frames
      obtain ⟨nextFrameLen, state, heq⟩ := updateState_eq { t with pendingInFrames }
      exact ⟨pendingInFrames, nextFrameLen, state, heq⟩

variable [BridgeOps β]

/-- What holds of the exchanges so far whatever the reassembly, and is kept by every turn of the
loop, holds after a call that returns. -/
theorem handleBulkOut_invariant {P : List (Exchange β) → CcidTransport β → Prop}
    (stable : ∀ xs t pendingOutBuffer nextFrameLen state, P xs t →
      P xs { t with pendingOutBuffer, nextFrameLen, state })
    (turn : ∀ xs t frame, P xs t → (TransportReply.bulkOut (t.handleFrame frame).1).Returns →
      P (xs ++ (t.exchange? frame).toList) (t.handleFrame frame).2)
    (xs : List (Exchange β)) {t : CcidTransport β} (h : P xs t) (payload : List UInt8)
    (hr : (TransportReply.bulkOut (t.handleBulkOut payload).1).Returns) :
    P (xs ++ t.exchanges payload) (t.handleBulkOut payload).2 := by
  have loop : ∀ fuel xs t, P xs t → (TransportReply.bulkOut (bulkOutLoop fuel t).1).Returns →
      P (xs ++ loopExchanges fuel t) (bulkOutLoop fuel t).2 := by
    intro fuel
    induction fuel with
    | zero => exact fun _ _ _ hr => hr.elim
    | succ fuel ih =>
      intro xs t h hr
      have ht : P xs t.tryTakeCompleteFrame.2 := by
        obtain ⟨pendingOutBuffer, nextFrameLen, state, heq⟩ := t.tryTakeCompleteFrame_eq
        rw [heq]
        exact stable _ _ _ _ _ h
      unfold bulkOutLoop at hr ⊢
      unfold loopExchanges
      match htake : t.tryTakeCompleteFrame with
      | (.error fault, t') | (.ok none, t') =>
        rw [htake] at ht
        simpa using ht
      | (.ok (some f), t') =>
        rw [htake] at ht hr
        dsimp only at ht hr ⊢
        have hf := turn xs t' f ht
        match hframe : t'.handleFrame f with
        | (.error fault, t'') =>
          rw [hframe] at hf hr
          simpa using hf hr
        | (.ok (), t'') =>
          rw [hframe] at hf hr
          simpa using ih _ _ (hf trivial) hr
  refine loop _ _ _ ?_ hr
  obtain ⟨nextFrameLen, state, heq⟩ :=
    updateState_eq { t with pendingOutBuffer := t.pendingOutBuffer ++ payload }
  rw [heq]
  exact stable xs t _ nextFrameLen state h

end CcidTransport
end VirtualCcid.Ccid
