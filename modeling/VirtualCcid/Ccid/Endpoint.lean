import VirtualCcid.Ccid.Transport
import VirtualCcid.Runs.Framing

/-! The transport message by message: what it does with one command, whatever packets brought
it, and that between calls the transport is such an endpoint with the bytes of part of a message. -/
namespace VirtualCcid.Ccid
open Rust Runs

def scanFrame (buffer : List UInt8) : Scan UInt8 :=
  if h : buffer.length < 10 then .incomplete
  else if frameLength buffer h > ccidMaxMessageLength + 10 then .refused (frameLength buffer h)
  else if buffer.length < frameLength buffer h then .incomplete
  else .message (buffer.take (frameLength buffer h)) (buffer.drop (frameLength buffer h))

theorem scanFrame_nil : scanFrame [] = .incomplete := rfl

theorem frameLength_append {xs : List UInt8} (h : ¬ xs.length < 10) (ys : List UInt8)
    (h' : ¬ (xs ++ ys).length < 10) : frameLength (xs ++ ys) h' = frameLength xs h := by
  have hi : ∀ i, (hi : i < 10) → (xs ++ ys)[i] = xs[i] :=
    fun i hi => List.getElem_append_left (by omega)
  simp [frameLength, hi]

theorem scanFrame_long {buffer : List UInt8} (h : ¬ buffer.length < 10) :
    scanFrame buffer =
      if frameLength buffer h > ccidMaxMessageLength + 10 then .refused (frameLength buffer h)
      else if buffer.length < frameLength buffer h then .incomplete
      else .message (buffer.take (frameLength buffer h)) (buffer.drop (frameLength buffer h)) := by
  rw [scanFrame, dif_neg h]

theorem scanFrame_eq_message {buffer frame rest : List UInt8} :
    scanFrame buffer = .message frame rest ↔
      ∃ h : ¬ buffer.length < 10, frameLength buffer h ≤ ccidMaxMessageLength + 10 ∧
        frameLength buffer h ≤ buffer.length ∧ frame = buffer.take (frameLength buffer h) ∧
          rest = buffer.drop (frameLength buffer h) := by
  by_cases h : buffer.length < 10
  · simp [scanFrame, h]
  rw [scanFrame_long h]
  split
  · simp; omega
  split
  · simp; omega
  · simp only [Scan.message.injEq, exists_prop_of_true h]
    constructor
    · rintro ⟨rfl, rfl⟩
      exact ⟨by omega, by omega, rfl, rfl⟩
    · rintro ⟨_, _, rfl, rfl⟩
      exact ⟨rfl, rfl⟩

theorem refused_of_scan {buffer : List UInt8} {n : ℕ} (h : scanFrame buffer = .refused n) :
    ∃ hlen : ¬ buffer.length < 10, ccidMaxMessageLength + 10 < frameLength buffer hlen ∧
      n = frameLength buffer hlen := by
  by_cases hlen : buffer.length < 10
  · simp [scanFrame, hlen] at h
  rw [scanFrame_long hlen] at h
  split at h
  · next hmax => exact ⟨hlen, hmax, (Scan.refused.inj h).symm⟩
  · split at h <;> cases h

theorem append_of_scan {buffer frame rest : List UInt8}
    (h : scanFrame buffer = .message frame rest) : frame ++ rest = buffer := by
  obtain ⟨hlen, -, -, rfl, rfl⟩ := scanFrame_eq_message.mp h
  exact List.take_append_drop _ _

theorem whole_of_scan {buffer frame rest : List UInt8}
    (h : scanFrame buffer = .message frame rest) :
    frame.length ≤ ccidMaxMessageLength + 10 ∧
      ∃ hframe : ¬ frame.length < 10, frameLength frame hframe = frame.length := by
  have happend := append_of_scan h
  obtain ⟨hlen, hmax, hle, hfront, -⟩ := scanFrame_eq_message.mp h
  have hlength : frame.length = frameLength buffer hlen := by
    rw [hfront, List.length_take_of_le hle]
  have hheader := ten_le_frameLength hlen
  have hframe : ¬ frame.length < 10 := by omega
  subst happend
  rw [frameLength_append hframe] at hlength hmax
  exact ⟨by omega, hframe, hlength.symm⟩

/-- A message that waits for its end announces a length that is accepted and not reached. -/
theorem frameLength_of_incomplete {buffer : List UInt8} (hb : scanFrame buffer = .incomplete)
    (h : ¬ buffer.length < 10) :
    buffer.length < frameLength buffer h ∧ frameLength buffer h ≤ ccidMaxMessageLength + 10 := by
  rw [scanFrame_long h] at hb
  split at hb
  · cases hb
  split at hb
  · omega
  · cases hb

def ccidFraming : Framing UInt8 where
  scan := scanFrame
  scan_nil := scanFrame_nil
  rest_lt {xs frame rest} h := by
    obtain ⟨hlen, _, hle, _, rfl⟩ := scanFrame_eq_message.mp h
    have := ten_le_frameLength hlen
    simp only [List.length_drop]
    omega
  message_append {xs frame rest} ys h := by
    obtain ⟨hlen, hmax, hle, rfl, rfl⟩ := scanFrame_eq_message.mp h
    have hlen' : ¬ (xs ++ ys).length < 10 := by simp only [List.length_append]; omega
    refine scanFrame_eq_message.mpr ⟨hlen', ?_⟩
    rw [frameLength_append hlen]
    refine ⟨hmax, by simp only [List.length_append]; omega, ?_, ?_⟩
    · rw [List.take_append_of_le_length hle]
    · rw [List.drop_append_of_le_length hle]
  refused_append {xs n} ys h := by
    obtain ⟨hlen, hmax, rfl⟩ := refused_of_scan h
    have hlen' : ¬ (xs ++ ys).length < 10 := by simp only [List.length_append]; omega
    rw [scanFrame_long hlen', frameLength_append hlen, if_pos hmax]

theorem decode_of_scan {buffer frame rest : List UInt8}
    (h : scanFrame buffer = .message frame rest) :
    ∃ command, CcidCommand.decode frame = .ok command := by
  obtain ⟨-, hlen, hwhole⟩ := whole_of_scan h
  unfold CcidCommand.decode
  rw [dif_neg hlen]
  dsimp only
  rw [if_neg]
  · exact ⟨_, rfl⟩
  · rw [frameLength] at hwhole
    omega

/-- The transport without the bytes it is still waiting for. -/
structure Endpoint (β : Type*) where
  bridge : β
  inFrames : List (List UInt8)
  interruptFrames : List (List UInt8)
  slotPresent : Bool
  bulkAbort : Option UInt8
  controlAbort : Option (UInt8 × UInt8)

/-- A frame behind a queue: not twice in a row, and in place of a full queue. -/
def enqueue (queue : List (List UInt8)) (frame : List UInt8) : List (List UInt8) :=
  if queue.getLast? = some frame then queue
  else (if queue.length ≥ maxPendingInFrames then [] else queue) ++ [frame]

theorem enqueue_ne_nil (queue : List (List UInt8)) (frame : List UInt8) :
    enqueue queue frame ≠ [] := by
  unfold enqueue
  split
  · next h =>
    rintro rfl
    simp at h
  · simp

/-- `NotifySlotChange` for a slot whose presence was `before`. -/
def notification (before present : Bool) : List UInt8 :=
  [ccidNotifySlotChange, (if before = present then 0b00 else 0b10) ||| if present then 0b01 else 0b00]

namespace Endpoint
variable {β : Type*}

def new (bridge : β) : Endpoint β where
  bridge := bridge
  inFrames := []
  interruptFrames := []
  slotPresent := false
  bulkAbort := none
  controlAbort := none

def answer (e : Endpoint β) (response : CcidResponse) (present : Bool) : Endpoint β :=
  { e with
    inFrames := enqueue e.inFrames response.encode
    slotPresent := present
    interruptFrames := e.interruptFrames ++ [notification e.slotPresent present] }

variable [BridgeOps β]

/-- Hand a command to the bridge and queue its response, unless the bridge panics. -/
def execute (e : Endpoint β) (command : CcidCommand) : Option (Endpoint β) :=
  match BridgeOps.handleCommand e.bridge command with
  | (.error _, _) => none
  | (.ok response, bridge) =>
    some ({ e with bridge }.answer response (BridgeOps.cardPresent bridge))

/-- The end of an abort: everything queued is dropped for its response. -/
def complete (e : Endpoint β) (slot seq : UInt8) : Option (Endpoint β) :=
  { e with bulkAbort := none, controlAbort := none, inFrames := [] }.execute (.abort slot seq)

def aborted (e : Endpoint β) (command : CcidCommand) : CcidResponse :=
  .slotStatus command.slot command.seq ⟨BridgeOps.currentIccStatus e.bridge, .failed⟩
    cmdAbortedError 0

def receive (e : Endpoint β) (command : CcidCommand) : Reaction (Endpoint β) :=
  match e.controlAbort with
  | some (slot, seq) =>
    if command = .abort slot seq then
      match e.complete slot seq with
      | some e => .flush e
      | none => .fail
    else .next (e.answer (e.aborted command) (BridgeOps.cardPresent e.bridge))
  | none =>
    match command with
    | .abort _ seq => .next { e with bulkAbort := some seq }
    | command =>
      match { e with bulkAbort := none }.execute command with
      | some e => .next e
      | none => .fail

/-- An endpoint goes on with a message as one of four: as the end of an abort, as aborted, as the
bulk half of an abort, or executed. -/
theorem receive_cases {e e' : Endpoint β} {command : CcidCommand}
    (h : e.receive command = .next e' ∨ e.receive command = .flush e') :
    (∃ slot seq, e.controlAbort = some (slot, seq) ∧ command = .abort slot seq ∧
      e.complete slot seq = some e') ∨
    (∃ slot seq, e.controlAbort = some (slot, seq) ∧ command ≠ .abort slot seq ∧
      e' = e.answer (e.aborted command) (BridgeOps.cardPresent e.bridge)) ∨
    (∃ slot seq, e.controlAbort = none ∧ command = .abort slot seq ∧
      e' = { e with bulkAbort := some seq }) ∨
    (e.controlAbort = none ∧ command.isAbort = false ∧
      { e with bulkAbort := none }.execute command = some e') := by
  obtain ⟨bridge, inFrames, interruptFrames, slotPresent, bulkAbort, controlAbort⟩ := e
  unfold receive at h
  cases controlAbort with
  | some abort =>
    obtain ⟨slot, seq⟩ := abort
    dsimp only at h
    by_cases hcommand : command = .abort slot seq
    · left
      rw [if_pos hcommand] at h
      split at h
      · next e'' hx =>
        obtain rfl := Reaction.flush.inj (h.resolve_left nofun)
        exact ⟨slot, seq, rfl, hcommand, hx⟩
      · rcases h with h | h <;> cases h
    · right; left
      rw [if_neg hcommand] at h
      obtain rfl := Reaction.next.inj (h.resolve_right nofun)
      exact ⟨slot, seq, rfl, hcommand, rfl⟩
  | none =>
    right; right
    cases command with
    | abort slot seq =>
      left
      obtain rfl := Reaction.next.inj (h.resolve_right nofun)
      exact ⟨slot, seq, rfl, rfl, rfl⟩
    | _ =>
      right
      dsimp only at h
      split at h
      · next e'' hx =>
        obtain rfl := Reaction.next.inj (h.resolve_right nofun)
        exact ⟨rfl, rfl, hx⟩
      · rcases h with h | h <;> cases h

def react (e : Endpoint β) (frame : List UInt8) : Reaction (Endpoint β) :=
  match CcidCommand.decode frame with
  | .error _ => .fail
  | .ok command => e.receive command

theorem react_of_decode {frame : List UInt8} {command : CcidCommand}
    (hd : CcidCommand.decode frame = .ok command) (e : Endpoint β) :
    e.react frame = e.receive command := by
  rw [react, hd]

theorem react_of_scan {buffer frame rest : List UInt8}
    (h : ccidFraming.scan buffer = .message frame rest) (e : Endpoint β) :
    ∃ command, CcidCommand.decode frame = .ok command ∧ e.react frame = e.receive command := by
  obtain ⟨command, hd⟩ := decode_of_scan h
  exact ⟨command, hd, react_of_decode hd e⟩

end Endpoint

namespace CcidTransport
variable {β : Type*}

def stateOf (inFrames : List (List UInt8)) (buffer : List UInt8) : TransportState :=
  if inFrames ≠ [] then .readyToSend else if buffer = [] then .idle else .receiving

/-- The length cached for the front of a buffer. -/
def cachedLen (buffer : List UInt8) : Option ℕ :=
  if h : buffer.length < 10 then none else some (frameLength buffer h)

/-- A transport in the middle of a call. -/
def mid (e : Endpoint β) (buffer : List UInt8) (nextFrameLen : Option ℕ) (state : TransportState) :
    CcidTransport β where
  bridge := .new e.bridge
  state := state
  pendingInFrames := e.inFrames
  pendingInterruptFrames := e.interruptFrames
  pendingOutBuffer := buffer
  nextFrameLen := nextFrameLen
  slotPresent := e.slotPresent
  bulkAbort := e.bulkAbort
  controlAbort := e.controlAbort

/-- A transport between calls: its state and its cached length follow from the rest. -/
def assemble (e : Endpoint β) (buffer : List UInt8) : CcidTransport β :=
  mid e buffer (cachedLen buffer) (stateOf e.inFrames buffer)

/-- A cached length is the announced one, and was accepted when it was read. -/
def Coherent (nextFrameLen : Option ℕ) (buffer : List UInt8) : Prop :=
  ∀ n, nextFrameLen = some n → cachedLen buffer = some n ∧ n ≤ ccidMaxMessageLength + 10

def tooLong (frameLen : ℕ) : IoError :=
  ⟨.invalidData, s!"CCID frame length {frameLen} exceeds configured maximum"⟩

theorem updateState_mid (e : Endpoint β) (buffer : List UInt8) (nextFrameLen : Option ℕ)
    (state : TransportState) :
    (mid e buffer nextFrameLen state).updateState =
      mid e buffer (if e.inFrames = [] ∧ buffer = [] then none else nextFrameLen)
        (stateOf e.inFrames buffer) := by
  by_cases hq : e.inFrames = [] <;> by_cases hb : buffer = [] <;>
    simp [updateState, mid, stateOf, hq, hb]

theorem pushInFrame_eq (t : CcidTransport β) (frame : List UInt8) :
    t.pushInFrame frame = { t with pendingInFrames := enqueue t.pendingInFrames frame } := by
  by_cases hl : t.pendingInFrames.getLast? = some frame
  · simp [pushInFrame, enqueue, hl]
  · by_cases hf : t.pendingInFrames.length ≥ maxPendingInFrames <;>
      simp [pushInFrame, enqueue, hl, hf]

theorem updateSlotPresence_eq (t : CcidTransport β) (present : Bool) :
    t.updateSlotPresence present =
      { t with
        slotPresent := present
        pendingInterruptFrames :=
          t.pendingInterruptFrames ++ [notification t.slotPresent present] } := by
  by_cases h : t.slotPresent = present
  · subst h
    simp [updateSlotPresence, notification]
  · cases present with
    | false => simp [updateSlotPresence, notification, h]
    | true =>
      simp only [updateSlotPresence, notification, h, if_true]
      rfl

theorem enqueueResponse_eq (t : CcidTransport β) (response : CcidResponse) (present : Bool) :
    ∃ nextFrameLen state, t.enqueueResponse response present =
      { t with
        pendingInFrames := enqueue t.pendingInFrames response.encode
        slotPresent := present
        pendingInterruptFrames :=
          t.pendingInterruptFrames ++ [notification t.slotPresent present]
        nextFrameLen
        state } := by
  rw [enqueueResponse, pushInFrame_eq, updateSlotPresence_eq]
  exact updateState_eq _

theorem enqueueResponse_mid (e : Endpoint β) (buffer : List UInt8) (nextFrameLen : Option ℕ)
    (state : TransportState) (response : CcidResponse) (present : Bool) :
    (mid e buffer nextFrameLen state).enqueueResponse response present =
      mid (e.answer response present) buffer nextFrameLen .readyToSend := by
  rw [enqueueResponse, pushInFrame_eq, updateSlotPresence_eq]
  exact (updateState_mid (e.answer response present) buffer nextFrameLen state).trans
    (by simp [Endpoint.answer, enqueue_ne_nil, stateOf])

theorem tryTakeCompleteFrame_long (e : Endpoint β) {buffer : List UInt8}
    (hlen : ¬ buffer.length < 10) (nextFrameLen : Option ℕ) (state : TransportState) :
    (mid e buffer nextFrameLen state).tryTakeCompleteFrame =
      let frameLen := nextFrameLen.getD (frameLength buffer hlen)
      if nextFrameLen.isNone ∧ frameLen > ccidMaxMessageLength + 10 then
        (.error (.error (tooLong frameLen)), (mid e [] none state).updateState)
      else if buffer.length < frameLen then
        (.ok none, (mid e buffer (some frameLen) state).updateState)
      else
        (.ok (some (buffer.take frameLen)),
          (mid e (buffer.drop frameLen) none state).updateState) :=
  dif_neg hlen

/-- The transport takes a frame exactly as the framing finds it. -/
theorem tryTakeCompleteFrame_mid (e : Endpoint β) {buffer : List UInt8} {nextFrameLen : Option ℕ}
    (hn : Coherent nextFrameLen buffer) (state : TransportState) :
    (mid e buffer nextFrameLen state).tryTakeCompleteFrame =
      match scanFrame buffer with
      | .incomplete => (.ok none, assemble e buffer)
      | .refused n => (.error (.error (tooLong n)), assemble e [])
      | .message frame rest => (.ok (some frame), mid e rest none (stateOf e.inFrames rest)) := by
  by_cases hlen : buffer.length < 10
  · have hs : scanFrame buffer = .incomplete := by simp [scanFrame, hlen]
    have hc : cachedLen buffer = none := by simp [cachedLen, hlen]
    have ht : (mid e buffer nextFrameLen state).tryTakeCompleteFrame =
        (.ok none, (mid e buffer none state).updateState) := dif_pos hlen
    rw [ht, hs, updateState_mid, assemble, hc, ite_self]
  have hcached : cachedLen buffer = some (frameLength buffer hlen) := by simp [cachedLen, hlen]
  have hne : buffer ≠ [] := by
    rintro rfl
    simp at hlen
  -- A cached length is the one in the header, and has been accepted.
  have hget : nextFrameLen.getD (frameLength buffer hlen) = frameLength buffer hlen := by
    cases hn' : nextFrameLen with
    | none => rfl
    | some n => exact Option.some.inj ((hn n hn').1.symm.trans hcached)
  have hcheck : (nextFrameLen.isNone = true ∧
      frameLength buffer hlen > ccidMaxMessageLength + 10) ↔
        frameLength buffer hlen > ccidMaxMessageLength + 10 := by
    refine ⟨And.right, fun hmax => ⟨?_, hmax⟩⟩
    cases hn' : nextFrameLen with
    | none => rfl
    | some n =>
      obtain ⟨hc, hle⟩ := hn n hn'
      obtain rfl := Option.some.inj (hcached.symm.trans hc)
      omega
  rw [tryTakeCompleteFrame_long e hlen, hget, scanFrame_long hlen]
  simp only [hcheck, updateState_mid, ite_self]
  split
  · rfl
  split
  · simp [assemble, hcached, hne]
  · rfl

theorem take_message (e : Endpoint β) {buffer frame rest : List UInt8} {nextFrameLen : Option ℕ}
    (hn : Coherent nextFrameLen buffer) {state : TransportState}
    (hscan : ccidFraming.scan buffer = .message frame rest) :
    (mid e buffer nextFrameLen state).tryTakeCompleteFrame =
      (.ok (some frame), mid e rest none (stateOf e.inFrames rest)) := by
  have hscan' : scanFrame buffer = .message frame rest := hscan
  rw [tryTakeCompleteFrame_mid e hn, hscan']

variable [BridgeOps β]

theorem execute_inFrames_ne_nil {e e' : Endpoint β} {command : CcidCommand}
    (h : e.execute command = some e') : e'.inFrames ≠ [] := by
  unfold Endpoint.execute at h
  split at h
  · cases h
  · obtain rfl := Option.some.inj h
    exact enqueue_ne_nil _ _

theorem complete_inFrames_ne_nil {e e' : Endpoint β} {slot seq : UInt8}
    (h : e.complete slot seq = some e') : e'.inFrames ≠ [] :=
  execute_inFrames_ne_nil h

def executeLocked (t : CcidTransport β) (command : CcidCommand) :
    Except (Fault IoError) Unit × CcidTransport β :=
  match t.lockedCommand command with
  | (.error fault, t) => (.error fault, t)
  | (.ok (response, cardPresent), t) => (.ok (), t.enqueueResponse response cardPresent)

section Locked
variable {t : CcidTransport β} {bridge bridge' : β} {command : CcidCommand}

theorem executeLocked_ok {response : CcidResponse} (hl : t.bridge.lock = .ok bridge)
    (h : BridgeOps.handleCommand bridge command = (.ok response, bridge')) :
    t.executeLocked command = (.ok (),
      { t with bridge := .new bridge' }.enqueueResponse response
        (BridgeOps.cardPresent bridge')) := by
  simp only [executeLocked, lockedCommand, hl, h]

theorem executeLocked_panic {panic : Panic} (hl : t.bridge.lock = .ok bridge)
    (h : BridgeOps.handleCommand bridge command = (.error panic, bridge')) :
    t.executeLocked command =
      (.error (.panic panic), { t with bridge := ⟨bridge', true⟩ }) := by
  simp only [executeLocked, lockedCommand, hl, h]

theorem handleFrame_command (hc : t.controlAbort = none) {frame : List UInt8}
    (hd : CcidCommand.decode frame = .ok command) (ha : command.isAbort = false) :
    t.handleFrame frame = { t with bulkAbort := none }.executeLocked command := by
  rw [handleFrame, hd, hc]
  cases command with
  | abort => cases ha
  | _ => rfl

end Locked

theorem executeLocked_mid (e : Endpoint β) (buffer : List UInt8) (nextFrameLen : Option ℕ)
    (state : TransportState) (command : CcidCommand) :
    match e.execute command with
    | some e' => (mid e buffer nextFrameLen state).executeLocked command =
        (.ok (), mid e' buffer nextFrameLen .readyToSend)
    | none => ∃ panic, ((mid e buffer nextFrameLen state).executeLocked command).1 =
        .error (.panic panic) := by
  have hlock : (mid e buffer nextFrameLen state).bridge.lock = .ok e.bridge := rfl
  obtain ⟨result, bridge, hcommand⟩ : ∃ result bridge,
    BridgeOps.handleCommand e.bridge command = (result, bridge) := ⟨_, _, rfl⟩
  cases result with
  | error panic =>
    rw [Endpoint.execute, hcommand, executeLocked_panic hlock hcommand]
    exact ⟨panic, rfl⟩
  | ok response =>
    rw [Endpoint.execute, hcommand, executeLocked_ok hlock hcommand]
    exact congrArg _ (enqueueResponse_mid { e with bridge } buffer nextFrameLen state response _)

theorem finishAbort_mid (e : Endpoint β) (buffer : List UInt8) (nextFrameLen : Option ℕ)
    (state : TransportState) (slot seq : UInt8) :
    match e.complete slot seq with
    | some e' => (mid e buffer nextFrameLen state).finishAbort slot seq =
        (.ok (), mid e' [] none .readyToSend)
    | none => ∃ panic, ((mid e buffer nextFrameLen state).finishAbort slot seq).1 =
        .error (.panic panic) :=
  executeLocked_mid { e with bulkAbort := none, controlAbort := none, inFrames := [] } [] none
    state (.abort slot seq)

/-- How the handling of a frame shows a reaction of the endpoint. -/
def Shows (rest : List UInt8) :
    Reaction (Endpoint β) → Except (Fault IoError) Unit × CcidTransport β → Prop
  | .next e, result => ∃ state, result = (.ok (), mid e rest none state)
  | .flush e, result => ∃ state, result = (.ok (), mid e [] none state)
  | .fail, result => ∃ panic, result.1 = .error (.panic panic)

omit [BridgeOps β] in
theorem Shows.of_ok {rest : List UInt8} {reaction : Reaction (Endpoint β)} {t : CcidTransport β}
    (h : Shows rest reaction (.ok (), t)) :
    ∃ e buffer state, t = mid e buffer none state ∧ (buffer = rest ∨ buffer = []) := by
  cases reaction with
  | next e =>
    obtain ⟨state, heq⟩ := h
    exact ⟨e, rest, state, congrArg Prod.snd heq, Or.inl rfl⟩
  | flush e =>
    obtain ⟨state, heq⟩ := h
    exact ⟨e, [], state, congrArg Prod.snd heq, Or.inr rfl⟩
  | fail =>
    obtain ⟨panic, heq⟩ := h
    cases heq

omit [BridgeOps β] in
theorem Shows.of_error {rest : List UInt8} {reaction : Reaction (Endpoint β)} {t : CcidTransport β}
    {fault : Fault IoError} (h : Shows rest reaction (.error fault, t)) :
    ∃ panic, fault = .panic panic := by
  cases reaction with
  | next e | flush e =>
    obtain ⟨state, heq⟩ := h
    cases heq
  | fail =>
    obtain ⟨panic, heq⟩ := h
    exact ⟨panic, Except.error.inj heq⟩

theorem handleFrame_mid (e : Endpoint β) (rest : List UInt8) (state : TransportState)
    {frame : List UInt8} {command : CcidCommand} (hd : CcidCommand.decode frame = .ok command) :
    Shows rest (e.receive command) ((mid e rest none state).handleFrame frame) := by
  obtain ⟨bridge, inFrames, interruptFrames, slotPresent, bulkAbort, controlAbort⟩ := e
  unfold handleFrame Endpoint.receive
  rw [hd]
  cases controlAbort with
  | some abort =>
    obtain ⟨slot, seq⟩ := abort
    let e : Endpoint β :=
      ⟨bridge, inFrames, interruptFrames, slotPresent, bulkAbort, some (slot, seq)⟩
    dsimp only [mid]
    split
    · have h := finishAbort_mid e rest none state slot seq
      cases hx : e.complete slot seq with
      | none => rwa [hx] at h
      | some e' =>
        rw [hx] at h
        exact ⟨_, h⟩
    · exact ⟨_, congrArg _ (enqueueResponse_mid e rest none state (e.aborted command) _)⟩
  | none =>
    have h := executeLocked_mid (⟨bridge, inFrames, interruptFrames, slotPresent, none, none⟩)
      rest none state command
    cases command with
    | abort slot seq => exact ⟨state, rfl⟩
    | _ =>
      dsimp only
      split
      · next e' hx =>
        rw [hx] at h
        exact ⟨_, h⟩
      · next hx => rwa [hx] at h

/-- How a call ends that drains the buffer of an endpoint. -/
def Ends : Endpoint β × Drained UInt8 → Except (Fault IoError) Unit × CcidTransport β → Prop
  | (e, .waiting rest), result => result = (.ok (), assemble e rest)
  | (e, .refused n), result => result = (.error (.error (tooLong n)), assemble e [])
  | (_, .failed), result => ∃ panic, result.1 = .error (.panic panic)

theorem coherent_none (buffer : List UInt8) : Coherent none buffer := by
  intro n h
  cases h

theorem react_mid (e : Endpoint β) {buffer frame rest : List UInt8} (state : TransportState)
    (hscan : ccidFraming.scan buffer = .message frame rest) :
    Shows rest (e.react frame) ((mid e rest none state).handleFrame frame) := by
  obtain ⟨command, hd, hr⟩ := Endpoint.react_of_scan hscan e
  rw [hr]
  exact handleFrame_mid e rest state hd

theorem bulkOutLoop_refines (e : Endpoint β) {buffer : List UInt8} {nextFrameLen : Option ℕ}
    (hn : Coherent nextFrameLen buffer) (state : TransportState) {fuel : ℕ}
    (hfuel : buffer.length < fuel) :
    Ends (ccidFraming.drain Endpoint.react e buffer)
      (bulkOutLoop fuel (mid e buffer nextFrameLen state)) := by
  induction e, buffer using Framing.drain.induct ccidFraming (@Endpoint.react β _)
    generalizing nextFrameLen state fuel with
  | case1 e buffer hscan =>
    obtain ⟨fuel, rfl⟩ := Nat.exists_eq_add_one_of_ne_zero (Nat.ne_zero_of_lt hfuel)
    have hscan' : scanFrame buffer = .incomplete := hscan
    rw [Framing.drain_incomplete hscan, bulkOutLoop, tryTakeCompleteFrame_mid e hn, hscan']
    rfl
  | case2 e buffer n hscan =>
    obtain ⟨fuel, rfl⟩ := Nat.exists_eq_add_one_of_ne_zero (Nat.ne_zero_of_lt hfuel)
    have hscan' : scanFrame buffer = .refused n := hscan
    rw [Framing.drain_refused hscan, bulkOutLoop, tryTakeCompleteFrame_mid e hn, hscan']
    rfl
  | case3 e buffer frame rest hscan e' hreact ih =>
    obtain ⟨fuel, rfl⟩ := Nat.exists_eq_add_one_of_ne_zero (Nat.ne_zero_of_lt hfuel)
    have hlt := ccidFraming.rest_lt hscan
    obtain ⟨state', hshow⟩ : Shows rest (.next e') _ :=
      hreact ▸ react_mid e (stateOf e.inFrames rest) hscan
    rw [Framing.drain_message hscan, hreact, bulkOutLoop, take_message e hn hscan]
    dsimp only
    rw [hshow]
    exact ih (coherent_none rest) state' (by omega)
  | case4 e buffer frame rest hscan e' hreact =>
    obtain ⟨fuel, rfl⟩ := Nat.exists_eq_add_one_of_ne_zero (Nat.ne_zero_of_lt hfuel)
    have hlt := ccidFraming.rest_lt hscan
    have hpos : fuel ≠ 0 := by omega
    obtain ⟨fuel, rfl⟩ := Nat.exists_eq_add_one_of_ne_zero hpos
    obtain ⟨state', hshow⟩ : Shows rest (.flush e') _ :=
      hreact ▸ react_mid e (stateOf e.inFrames rest) hscan
    rw [Framing.drain_message hscan, hreact, bulkOutLoop, take_message e hn hscan]
    dsimp only
    rw [hshow]
    dsimp only
    rw [bulkOutLoop, tryTakeCompleteFrame_mid e' (coherent_none []), scanFrame_nil]
    rfl
  | case5 e buffer frame rest hscan hreact =>
    obtain ⟨fuel, rfl⟩ := Nat.exists_eq_add_one_of_ne_zero (Nat.ne_zero_of_lt hfuel)
    obtain ⟨panic, hshow⟩ : Shows rest .fail _ :=
      hreact ▸ react_mid e (stateOf e.inFrames rest) hscan
    rw [Framing.drain_message hscan, hreact, bulkOutLoop, take_message e hn hscan]
    dsimp only
    split
    · next heq =>
      rw [heq] at hshow
      exact ⟨panic, hshow⟩
    · next heq =>
      rw [heq] at hshow
      cases hshow

omit [BridgeOps β] in
theorem updateState_assemble (e : Endpoint β) (buffer : List UInt8) (state : TransportState) :
    (mid e buffer (cachedLen buffer) state).updateState = assemble e buffer := by
  rw [updateState_mid, assemble]
  split
  · next h =>
    rw [h.2]
    rfl
  · rfl

theorem coherent_append {buffer : List UInt8} (hb : scanFrame buffer = .incomplete)
    (payload : List UInt8) : Coherent (cachedLen buffer) (buffer ++ payload) := by
  intro n hn
  by_cases hlen : buffer.length < 10
  · simp [cachedLen, hlen] at hn
  have hlen' : ¬ (buffer ++ payload).length < 10 := by
    simp only [List.length_append]
    omega
  obtain rfl : frameLength buffer hlen = n := by simpa [cachedLen, hlen] using hn
  have hmax := (frameLength_of_incomplete hb hlen).2
  exact ⟨by rw [cachedLen, dif_neg hlen', frameLength_append hlen], hmax⟩

omit [BridgeOps β] in
theorem receive_mid (e : Endpoint β) {buffer : List UInt8} (hb : scanFrame buffer = .incomplete)
    (payload : List UInt8) :
    ∃ nextFrameLen state, Coherent nextFrameLen (buffer ++ payload) ∧
      { assemble e buffer with pendingOutBuffer := buffer ++ payload }.updateState =
        mid e (buffer ++ payload) nextFrameLen state := by
  refine ⟨_, _, ?_, updateState_mid e (buffer ++ payload) (cachedLen buffer)
    (stateOf e.inFrames buffer)⟩
  split
  · exact coherent_none _
  · exact coherent_append hb payload

theorem handleBulkOut_loop (e : Endpoint β) {buffer : List UInt8}
    (hb : scanFrame buffer = .incomplete) (payload : List UInt8) :
    ∃ nextFrameLen state, Coherent nextFrameLen (buffer ++ payload) ∧
      (assemble e buffer).handleBulkOut payload =
        bulkOutLoop ((buffer ++ payload).length + 1)
          (mid e (buffer ++ payload) nextFrameLen state) := by
  obtain ⟨nextFrameLen, state, hn, hreceived⟩ := receive_mid e hb payload
  have hcall : (assemble e buffer).handleBulkOut payload =
      let t := { assemble e buffer with pendingOutBuffer := buffer ++ payload }.updateState
      bulkOutLoop (t.pendingOutBuffer.length + 1) t := rfl
  refine ⟨nextFrameLen, state, hn, ?_⟩
  rw [hcall, hreceived]
  rfl

/-- A call of `handle_bulk_out` drains the buffer and the new bytes. -/
theorem handleBulkOut_refines (e : Endpoint β) {buffer : List UInt8}
    (hb : scanFrame buffer = .incomplete) (payload : List UInt8) :
    Ends (ccidFraming.drain Endpoint.react e (buffer ++ payload))
      ((assemble e buffer).handleBulkOut payload) := by
  obtain ⟨nextFrameLen, state, hn, hcall⟩ := handleBulkOut_loop e hb payload
  rw [hcall]
  exact bulkOutLoop_refines e hn state (Nat.lt_succ_self _)

/-- Between calls the transport is an endpoint that waits for the rest of a message. -/
def Waits (t : CcidTransport β) : Prop :=
  ∃ e buffer, t = assemble e buffer ∧ scanFrame buffer = .incomplete

omit [BridgeOps β] in
theorem handleBulkIn_waits {t : CcidTransport β} (ht : t.Waits) (maxLen : ℕ) :
    (t.handleBulkIn maxLen).2.Waits := by
  obtain ⟨e, buffer, rfl, hb⟩ := ht
  have hq : (assemble e buffer).pendingInFrames = e.inFrames := rfl
  unfold handleBulkIn
  rw [hq]
  split
  · exact ⟨e, buffer, updateState_assemble e buffer _, hb⟩
  · next frame frames _ =>
    split
    · let inFrames := if maxLen ≠ 0 ∧ frame ≠ [] ∧ frame.length % maxLen = 0 then [] :: frames
        else frames
      exact ⟨{ e with inFrames }, buffer, updateState_assemble { e with inFrames } .., hb⟩
    · let inFrames := frame.drop maxLen :: frames
      exact ⟨{ e with inFrames }, buffer, updateState_assemble { e with inFrames } .., hb⟩

/-- An interrupt transfer returns the oldest notification, that of its own poll included. -/
theorem handleInterruptIn_assemble (e : Endpoint β) (buffer : List UInt8) :
    (assemble e buffer).handleInterruptIn =
      match BridgeOps.refreshCardPresence e.bridge with
      | (.ok present, bridge) =>
        let frames := e.interruptFrames ++ [notification e.slotPresent present]
        (frames.headD [],
          assemble { e with bridge, slotPresent := present, interruptFrames := frames.tail } buffer)
      | (.error _, bridge) =>
        (e.interruptFrames.headD [],
          assemble { e with bridge, interruptFrames := e.interruptFrames.tail } buffer) := by
  have hlock : (assemble e buffer).bridge.lock = .ok e.bridge := rfl
  obtain ⟨result, bridge, hrefresh⟩ : ∃ result bridge,
    BridgeOps.refreshCardPresence e.bridge = (result, bridge) := ⟨_, _, rfl⟩
  unfold handleInterruptIn
  rw [hlock]
  dsimp only
  rw [hrefresh]
  cases result with
  | ok present =>
    dsimp only
    rw [updateSlotPresence_eq]
    rfl
  | error error => rfl

theorem handleInterruptIn_waits {t : CcidTransport β} (ht : t.Waits) :
    t.handleInterruptIn.2.Waits := by
  obtain ⟨e, buffer, rfl, hb⟩ := ht
  rw [handleInterruptIn_assemble]
  split
  · exact ⟨_, buffer, rfl, hb⟩
  · exact ⟨_, buffer, rfl, hb⟩

theorem handleBulkOut_assemble (e : Endpoint β) {buffer : List UInt8}
    (hb : scanFrame buffer = .incomplete) (payload : List UInt8)
    (hr : TransportReply.Returns (.bulkOut ((assemble e buffer).handleBulkOut payload).1)) :
    ∃ rest, scanFrame rest = .incomplete ∧
      ((assemble e buffer).handleBulkOut payload).2 =
        assemble (ccidFraming.drain Endpoint.react e (buffer ++ payload)).1 rest := by
  have h := handleBulkOut_refines e hb payload
  obtain ⟨⟨e', ending⟩, hd⟩ : ∃ drained,
    ccidFraming.drain Endpoint.react e (buffer ++ payload) = drained := ⟨_, rfl⟩
  rw [hd] at h ⊢
  cases ending with
  | waiting rest => exact ⟨rest, Framing.incomplete_of_waiting hd, congrArg Prod.snd h⟩
  | refused n => exact ⟨[], scanFrame_nil, congrArg Prod.snd h⟩
  | failed =>
    obtain ⟨panic, hp⟩ := h
    rw [hp] at hr
    cases hr

theorem handleBulkOut_waits {t : CcidTransport β} (ht : t.Waits) (payload : List UInt8)
    (hr : TransportReply.Returns (.bulkOut (t.handleBulkOut payload).1)) :
    (t.handleBulkOut payload).2.Waits := by
  obtain ⟨e, buffer, rfl, hb⟩ := ht
  obtain ⟨rest, hrest, heq⟩ := handleBulkOut_assemble e hb payload hr
  exact ⟨_, rest, heq, hrest⟩

/-- The control half of an abort: it completes behind the bulk half, or is kept. -/
theorem expectAbort_assemble (e : Endpoint β) (buffer : List UInt8) (seq : UInt8) :
    if e.bulkAbort = some seq then
      match e.complete 0 seq with
      | some e' => (assemble e buffer).expectAbort 0 seq = (.ok (), assemble e' [])
      | none => ∃ panic, ((assemble e buffer).expectAbort 0 seq).1 = .error (.panic panic)
    else (assemble e buffer).expectAbort 0 seq =
      (.ok (), assemble { e with controlAbort := some (0, seq) } buffer) := by
  have hb : (assemble e buffer).bulkAbort = e.bulkAbort := rfl
  unfold expectAbort
  rw [hb]
  by_cases hq : e.bulkAbort = some seq
  · have h := finishAbort_mid e buffer (cachedLen buffer) (stateOf e.inFrames buffer) 0 seq
    rw [← assemble] at h
    simp only [hq, ne_eq, not_true_eq_false, if_true, if_false]
    cases hx : e.complete 0 seq with
    | some e' =>
      rw [hx] at h
      dsimp only
      rw [h]
      have hne : e'.inFrames ≠ [] := complete_inFrames_ne_nil hx
      simp [assemble, stateOf, hne, cachedLen]
    | none =>
      rw [hx] at h
      obtain ⟨panic, hp⟩ := h
      refine ⟨panic, ?_⟩
      split
      · next heq =>
        rw [heq] at hp
        cases hp
      · exact hp
  · simp only [hq, ne_eq, not_true_eq_false, if_false]
    rfl

theorem handleControlRequest_abort (t : CcidTransport β) (value : UInt16) :
    t.handleControlRequest 0x21 ccidAbort value =
      ((t.expectAbort (u16ToLeBytes value).1 (u16ToLeBytes value).2).1.map fun _ => [],
        (t.expectAbort (u16ToLeBytes value).1 (u16ToLeBytes value).2).2) := by
  have h : ¬ ((0x21 : UInt8) = 0xa1) := by decide
  simp only [handleControlRequest, h, false_and, if_false, and_self, if_true]
  split <;> (next heq => rw [heq]; rfl)

theorem handleControlRequest_other (t : CcidTransport β) {requestType request : UInt8}
    (h : ¬ (requestType = 0x21 ∧ request = ccidAbort)) (value : UInt16) :
    (t.handleControlRequest requestType request value).2 = t := by
  simp only [handleControlRequest, h, if_false]
  split
  · rfl
  split <;> rfl

/-- What a control request makes of a waiting endpoint: nothing, its completed abort, or an abort
that waits for its bulk half. -/
theorem handleControlRequest_cases (e : Endpoint β) (buffer : List UInt8)
    (requestType request : UInt8) (value : UInt16) {t : CcidTransport β}
    (ht : ((assemble e buffer).handleControlRequest requestType request value).2 = t)
    (hr : TransportReply.Returns (.controlRequest
      ((assemble e buffer).handleControlRequest requestType request value).1)) :
    t = assemble e buffer ∨ (∃ seq e', e.complete 0 seq = some e' ∧ t = assemble e' []) ∨
      ∃ seq, t = assemble { e with controlAbort := some (0, seq) } buffer := by
  subst ht
  by_cases habort : requestType = 0x21 ∧ request = ccidAbort
  · obtain ⟨rfl, rfl⟩ := habort
    rw [handleControlRequest_abort] at hr ⊢
    generalize u16ToLeBytes value = halves at hr ⊢
    obtain ⟨slot, seq⟩ := halves
    dsimp only at hr ⊢
    by_cases hslot : slot = 0
    · subst hslot
      have h := expectAbort_assemble e buffer seq
      split at h
      · cases hx : e.complete 0 seq with
        | some e' =>
          rw [hx] at h
          exact Or.inr (Or.inl ⟨seq, e', hx, congrArg Prod.snd h⟩)
        | none =>
          rw [hx] at h
          obtain ⟨panic, hp⟩ := h
          rw [hp] at hr
          exact hr.elim
      · exact Or.inr (Or.inr ⟨seq, congrArg Prod.snd h⟩)
    · left
      rw [expectAbort, if_pos hslot]
  · exact Or.inl (handleControlRequest_other _ habort value)

theorem handleControlRequest_waits {t : CcidTransport β} (ht : t.Waits)
    (requestType request : UInt8) (value : UInt16)
    (hr : TransportReply.Returns (.controlRequest
      (t.handleControlRequest requestType request value).1)) :
    (t.handleControlRequest requestType request value).2.Waits := by
  obtain ⟨e, buffer, rfl, hb⟩ := ht
  rcases handleControlRequest_cases e buffer requestType request value rfl hr with
    h | ⟨seq, e', -, h⟩ | ⟨seq, h⟩
  · rw [h]
    exact ⟨e, buffer, rfl, hb⟩
  · rw [h]
    exact ⟨e', [], rfl, scanFrame_nil⟩
  · rw [h]
    exact ⟨{ e with controlAbort := some (0, seq) }, buffer, rfl, hb⟩

end CcidTransport

theorem step_waits {β : Type*} [BridgeOps β] {t : CcidTransport β} (ht : t.Waits)
    (op : TransportOp) (hr : ((transportMachine β).event t op).output.Returns) :
    ((transportMachine β).event t op).after.Waits := by
  cases op with
  | controlRequest requestType request value =>
    exact CcidTransport.handleControlRequest_waits ht requestType request value hr
  | bulkOut payload => exact CcidTransport.handleBulkOut_waits ht payload hr
  | bulkIn maxLen => exact CcidTransport.handleBulkIn_waits ht maxLen
  | interruptIn => exact CcidTransport.handleInterruptIn_waits ht

theorem reachable_waits {β : Type*} [BridgeOps β] {bridge : β} {t : CcidTransport β}
    (hr : (transportMachine β).Reachable (fun e => e.output.Returns) (.new bridge) t) :
    t.Waits :=
  hr.invariant ⟨.new bridge, [], rfl, rfl⟩ fun _ op ht hreturns => step_waits ht op hreturns

end VirtualCcid.Ccid
