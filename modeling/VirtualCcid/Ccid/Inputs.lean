import VirtualCcid.Ccid.Endpoint
import VirtualCcid.Runs.Simulation

/-! What the calls of the transport ask of the bridge: every run of the transport contains a run of
its bridge, and which inputs each kind of call can cause. -/
namespace VirtualCcid.Ccid
open Rust Nfc Runs

def bridgeOpsMachine (β : Type*) [BridgeOps β] : Machine β BridgeInput BridgeOutput where
  step
    | b, .command c => (.response (BridgeOps.handleCommand b c).1, (BridgeOps.handleCommand b c).2)
    | b, .refresh =>
      (.presence (BridgeOps.refreshCardPresence b).1, (BridgeOps.refreshCardPresence b).2)

theorem bridgeOpsMachine_bridge (ρ : Type*) [NfcReader ρ] :
    bridgeOpsMachine (CcidBridge ρ) = bridgeMachine ρ := by
  unfold bridgeOpsMachine bridgeMachine
  congr 1
  funext b i
  cases i with
  | command => rfl
  | refresh => rfl

/-- What a call may ask of the bridge. Reading asks nothing, an interrupt transfer polls once at
most, a control request hands over an `Abort` at most, and bulk OUT hands over commands only. -/
def TransportOp.Causes : TransportOp → List BridgeInput → Prop
  | .bulkOut _, is => ∀ i ∈ is, ∃ command, i = .command command
  | .controlRequest requestType request value, is =>
    is = [] ∨ requestType = 0x21 ∧ request = ccidAbort ∧ ∃ seq, u16ToLeBytes value = (0, seq) ∧
      is = [.command (.abort 0 seq)]
  | .interruptIn, is => is = [] ∨ is = [.refresh]
  | .bulkIn _, is => is = []

/-- The bytes hold the input: it is the command of a frame among them. -/
def BridgeInput.IsReadFrom (bytes : List UInt8) (i : BridgeInput) : Prop :=
  ∃ frame command, frame <:+: bytes ∧ CcidCommand.decode frame = .ok command ∧
    i = .command command

theorem BridgeInput.IsReadFrom.mono {bytes bytes' : List UInt8} {i : BridgeInput}
    (h : i.IsReadFrom bytes) (hsub : bytes <:+: bytes') : i.IsReadFrom bytes' := by
  obtain ⟨frame, command, hframe, hd, hi⟩ := h
  exact ⟨frame, command, hframe.trans hsub, hd, hi⟩

namespace CcidTransport
variable {β : Type*} [BridgeOps β]

/-- `t` comes to be `t'` by these inputs of its bridge, keeps an end of what it has buffered, and
queues notifications only. -/
structure Advances (t t' : CcidTransport β) (is : List BridgeInput) : Prop where
  bridge : t'.bridge.value = (bridgeOpsMachine β).final t.bridge.value is
  kept : t'.pendingOutBuffer <:+ t.pendingOutBuffer
  notified : ∃ frames, t'.pendingInterruptFrames = t.pendingInterruptFrames ++ frames ∧
    ∀ frame ∈ frames, frame.length = 2

theorem Advances.of_same {t t' : CcidTransport β} (hbridge : t'.bridge.value = t.bridge.value)
    (hkept : t'.pendingOutBuffer <:+ t.pendingOutBuffer)
    (hframes : t'.pendingInterruptFrames = t.pendingInterruptFrames) : t.Advances t' [] :=
  ⟨hbridge, hkept, [], by rw [hframes, List.append_nil], by simp⟩

theorem Advances.trans {t t' t'' : CcidTransport β} {is js : List BridgeInput}
    (h : t.Advances t' is) (h' : t'.Advances t'' js) : t.Advances t'' (is ++ js) := by
  obtain ⟨frames, hframes, htwo⟩ := h.notified
  obtain ⟨frames', hframes', htwo'⟩ := h'.notified
  refine ⟨?_, h'.kept.trans h.kept, frames ++ frames', ?_, ?_⟩
  · rw [Machine.final_append, ← h.bridge, h'.bridge]
  · rw [hframes', hframes, List.append_assoc]
  · intro frame hframe
    rcases List.mem_append.mp hframe with hframe | hframe
    · exact htwo frame hframe
    · exact htwo' frame hframe

theorem updateState_advances (t : CcidTransport β) : t.Advances t.updateState [] := by
  obtain ⟨nextFrameLen, state, heq⟩ := t.updateState_eq
  rw [heq]
  exact .of_same rfl (List.suffix_refl _) rfl

omit [BridgeOps β] in
theorem length_notification (before present : Bool) : (notification before present).length = 2 :=
  rfl

theorem enqueueResponse_advances (t : CcidTransport β) (response : CcidResponse) (present : Bool) :
    t.Advances (t.enqueueResponse response present) [] := by
  obtain ⟨nextFrameLen, state, heq⟩ := enqueueResponse_eq t response present
  rw [heq]
  refine ⟨rfl, List.suffix_refl _, [notification t.slotPresent present], rfl, ?_⟩
  intro frame hframe
  rw [List.mem_singleton.mp hframe, length_notification]

theorem executeLocked_advances (t : CcidTransport β) (command : CcidCommand) :
    ∃ is, (is = [] ∨ is = [.command command]) ∧ t.Advances (t.executeLocked command).2 is := by
  cases hlock : t.bridge.lock with
  | error =>
    have h : (t.executeLocked command).2 = t := by simp only [executeLocked, lockedCommand, hlock]
    rw [h]
    exact ⟨[], Or.inl rfl, .of_same rfl (List.suffix_refl _) rfl⟩
  | ok bridge =>
    obtain rfl := t.bridge.value_of_lock hlock
    obtain ⟨result, bridge, hcommand⟩ : ∃ result bridge,
      BridgeOps.handleCommand t.bridge.value command = (result, bridge) := ⟨_, _, rfl⟩
    have hstep : bridge = (bridgeOpsMachine β).final t.bridge.value [.command command] := by
      show bridge = (BridgeOps.handleCommand t.bridge.value command).2
      rw [hcommand]
    refine ⟨[.command command], Or.inr rfl, ?_⟩
    cases result with
    | error panic =>
      rw [executeLocked_panic hlock hcommand]
      exact ⟨hstep, List.suffix_refl _, [], (List.append_nil _).symm, by simp⟩
    | ok response =>
      rw [executeLocked_ok hlock hcommand]
      have hhanded : t.Advances { t with bridge := .new bridge } [.command command] :=
        ⟨hstep, List.suffix_refl _, [], (List.append_nil _).symm, by simp⟩
      exact hhanded.trans (enqueueResponse_advances _ response _)

theorem finishAbort_advances (t : CcidTransport β) (slot seq : UInt8) :
    ∃ is, (is = [] ∨ is = [.command (.abort slot seq)]) ∧
      t.Advances (t.finishAbort slot seq).2 is := by
  let t' : CcidTransport β := { t with
    bulkAbort := none, controlAbort := none, pendingOutBuffer := [], nextFrameLen := none
    pendingInFrames := [] }
  obtain ⟨is, his, h⟩ := executeLocked_advances t' (.abort slot seq)
  exact ⟨is, his, h.bridge, h.kept.trans List.nil_suffix, h.notified⟩

theorem queueAbortedResponse_advances (t : CcidTransport β) (command : CcidCommand) :
    t.Advances (t.queueAbortedResponse command).2 [] := by
  unfold queueAbortedResponse
  split
  · exact .of_same rfl (List.suffix_refl _) rfl
  · exact enqueueResponse_advances t _ _

theorem handleFrame_advances (t : CcidTransport β) (frame : List UInt8) :
    ∃ is, (∀ i ∈ is, ∃ command, CcidCommand.decode frame = .ok command ∧ i = .command command) ∧
      t.Advances (t.handleFrame frame).2 is := by
  have hsame : t.Advances t [] := .of_same rfl (List.suffix_refl _) rfl
  cases hd : CcidCommand.decode frame with
  | error error =>
    rw [handleFrame, hd]
    exact ⟨[], by simp, hsame⟩
  | ok command =>
    have one : ∀ {t' : CcidTransport β},
        (∃ is, (is = [] ∨ is = [.command command]) ∧ t.Advances t' is) →
          ∃ is : List BridgeInput,
            (∀ i ∈ is, ∃ command', .ok command = (.ok command' : Except CcidProtocolError _) ∧
              i = .command command') ∧ t.Advances t' is := by
      intro t' handed
      obtain ⟨is, his, h⟩ := handed
      refine ⟨is, ?_, h⟩
      rcases his with rfl | rfl
      · simp
      · simp
    cases hc : t.controlAbort with
    | some abort =>
      obtain ⟨slot, seq⟩ := abort
      rw [handleFrame, hd, hc]
      dsimp only
      by_cases hcommand : command = .abort slot seq
      · rw [if_pos hcommand]
        rw [hcommand] at one
        rw [hcommand]
        exact one (finishAbort_advances t slot seq)
      · rw [if_neg hcommand]
        exact ⟨[], by simp, queueAbortedResponse_advances t command⟩
    | none =>
      cases ha : command.isAbort with
      | true =>
        cases command with
        | abort slot seq =>
          rw [handleFrame, hd, hc]
          exact ⟨[], by simp, .of_same rfl (List.suffix_refl _) rfl⟩
        | _ => cases ha
      | false =>
        obtain ⟨is, his, h⟩ := executeLocked_advances { t with bulkAbort := none } command
        rw [handleFrame_command hc hd ha]
        exact one ⟨is, his, h.bridge, h.kept, h.notified⟩

theorem tryTakeCompleteFrame_advances (t : CcidTransport β) :
    t.Advances t.tryTakeCompleteFrame.2 [] ∧
      ∀ frame, t.tryTakeCompleteFrame.1 = .ok (some frame) → frame <:+: t.pendingOutBuffer := by
  have hupdated : ∀ pendingOutBuffer nextFrameLen, pendingOutBuffer <:+ t.pendingOutBuffer →
      t.Advances { t with pendingOutBuffer, nextFrameLen }.updateState [] := by
    intro pendingOutBuffer nextFrameLen hkept
    have h := updateState_advances { t with pendingOutBuffer, nextFrameLen }
    exact ⟨h.bridge, h.kept.trans hkept, h.notified⟩
  unfold tryTakeCompleteFrame
  split
  · exact ⟨hupdated t.pendingOutBuffer none (List.suffix_refl _), nofun⟩
  dsimp only
  split
  · exact ⟨hupdated [] none List.nil_suffix, nofun⟩
  split
  · exact ⟨hupdated t.pendingOutBuffer _ (List.suffix_refl _), nofun⟩
  · refine ⟨hupdated _ none (List.drop_suffix _ _), fun frame hframe => ?_⟩
    obtain rfl := Option.some.inj (Except.ok.inj hframe)
    exact (List.take_prefix _ _).isInfix

theorem bulkOutLoop_advances (fuel : ℕ) (t : CcidTransport β) :
    ∃ is, (∀ i ∈ is, i.IsReadFrom t.pendingOutBuffer) ∧ t.Advances (bulkOutLoop fuel t).2 is := by
  induction fuel generalizing t with
  | zero => exact ⟨[], by simp, .of_same rfl (List.suffix_refl _) rfl⟩
  | succ fuel ih =>
    obtain ⟨htake, hinfix⟩ := t.tryTakeCompleteFrame_advances
    obtain ⟨taken, t', ht⟩ : ∃ taken t', t.tryTakeCompleteFrame = (taken, t') := ⟨_, _, rfl⟩
    unfold bulkOutLoop
    rw [ht] at htake hinfix ⊢
    rcases taken with fault | ⟨_ | frame⟩
    · exact ⟨[], by simp, htake⟩
    · exact ⟨[], by simp, htake⟩
    · dsimp only at htake ⊢
      obtain ⟨is, his, hframe⟩ := handleFrame_advances t' frame
      have hread : ∀ i ∈ is, i.IsReadFrom t.pendingOutBuffer := by
        intro i hi
        obtain ⟨command, hd, hcommand⟩ := his i hi
        exact ⟨frame, command, hinfix frame rfl, hd, hcommand⟩
      obtain ⟨result, t'', hf⟩ : ∃ result t'', t'.handleFrame frame = (result, t'') := ⟨_, _, rfl⟩
      rw [hf] at hframe ⊢
      cases result with
      | error fault => exact ⟨is, hread, htake.trans hframe⟩
      | ok =>
        obtain ⟨js, hjs, hrest⟩ := ih t''
        have hsofar := htake.trans hframe
        refine ⟨is ++ js, ?_, hsofar.trans hrest⟩
        intro i hi
        rcases List.mem_append.mp hi with hi | hi
        · exact hread i hi
        · exact (hjs i hi).mono hsofar.kept.isInfix

/-- What bulk OUT hands over is read from what was buffered and what it brings. -/
theorem handleBulkOut_advances (t : CcidTransport β) (payload : List UInt8) :
    ∃ is, (∀ i ∈ is, i.IsReadFrom (t.pendingOutBuffer ++ payload)) ∧
      { t with pendingOutBuffer := t.pendingOutBuffer ++ payload }.Advances
        (t.handleBulkOut payload).2 is := by
  let t' : CcidTransport β := { t with pendingOutBuffer := t.pendingOutBuffer ++ payload }
  have hreceived := t'.updateState_advances
  obtain ⟨is, his, h⟩ := bulkOutLoop_advances (t'.updateState.pendingOutBuffer.length + 1)
    t'.updateState
  exact ⟨is, fun i hi => (his i hi).mono hreceived.kept.isInfix, hreceived.trans h⟩

theorem handleBulkIn_advances (t : CcidTransport β) (maxLen : ℕ) :
    t.Advances (t.handleBulkIn maxLen).2 [] := by
  obtain ⟨pendingInFrames, nextFrameLen, state, heq⟩ := t.handleBulkIn_eq maxLen
  rw [heq]
  exact .of_same rfl (List.suffix_refl _) rfl

theorem expectAbort_advances (t : CcidTransport β) (slot seq : UInt8) :
    ∃ is, (is = [] ∨ slot = 0 ∧ is = [.command (.abort 0 seq)]) ∧
      t.Advances (t.expectAbort slot seq).2 is := by
  unfold expectAbort
  by_cases hslot : slot ≠ 0
  · rw [if_pos hslot]
    exact ⟨[], Or.inl rfl, .of_same rfl (List.suffix_refl _) rfl⟩
  rw [if_neg hslot]
  obtain rfl : slot = 0 := not_not.mp hslot
  by_cases hbulk : t.bulkAbort = some seq
  · rw [if_pos hbulk]
    obtain ⟨is, his, h⟩ := finishAbort_advances t 0 seq
    refine ⟨is, his.imp_right fun his => ⟨rfl, his⟩, ?_⟩
    split
    · next heq =>
      rw [heq] at h
      exact h
    · exact h
  · rw [if_neg hbulk]
    exact ⟨[], Or.inl rfl, .of_same rfl (List.suffix_refl _) rfl⟩

theorem handleControlRequest_advances (t : CcidTransport β) (requestType request : UInt8)
    (value : UInt16) :
    ∃ is, (TransportOp.controlRequest requestType request value).Causes is ∧
      t.Advances (t.handleControlRequest requestType request value).2 is := by
  have hsame : t.Advances t [] := .of_same rfl (List.suffix_refl _) rfl
  unfold handleControlRequest
  split
  · exact ⟨[], Or.inl rfl, hsame⟩
  split
  · exact ⟨[], Or.inl rfl, hsame⟩
  split
  · next habort =>
    obtain ⟨⟨slot, seq⟩, hvalue⟩ : ∃ expected, u16ToLeBytes value = expected := ⟨_, rfl⟩
    obtain ⟨is, his, h⟩ := expectAbort_advances t slot seq
    rw [hvalue]
    refine ⟨is, his.imp_right ?_, ?_⟩
    · intro ⟨hslot, his⟩
      rw [hslot] at hvalue
      exact ⟨habort.1, habort.2, seq, hvalue, his⟩
    · dsimp only
      split
      · next heq =>
        rw [heq] at h
        exact h
      · next heq =>
        rw [heq] at h
        exact h
  · exact ⟨[], Or.inl rfl, hsame⟩

/-- An interrupt transfer polls once, unless the lock is poisoned, and what it returns is one of
the notifications queued. -/
theorem handleInterruptIn_drives (t : CcidTransport β) :
    (∃ is, TransportOp.interruptIn.Causes is ∧
      t.handleInterruptIn.2.bridge.value = (bridgeOpsMachine β).final t.bridge.value is) ∧
    t.handleInterruptIn.2.pendingOutBuffer = t.pendingOutBuffer ∧
    ∃ queue frames, queue = t.pendingInterruptFrames ++ frames ∧
      (∀ frame ∈ frames, frame.length = 2) ∧ t.handleInterruptIn.1 = queue.headD [] ∧
        t.handleInterruptIn.2.pendingInterruptFrames = queue.tail := by
  unfold handleInterruptIn
  cases hlock : t.bridge.lock with
  | error =>
    exact ⟨⟨[], Or.inl rfl, rfl⟩, rfl, _, [], (List.append_nil _).symm, by simp, rfl, rfl⟩
  | ok bridge =>
    obtain rfl := t.bridge.value_of_lock hlock
    obtain ⟨result, bridge, hrefresh⟩ : ∃ result bridge,
      BridgeOps.refreshCardPresence t.bridge.value = (result, bridge) := ⟨_, _, rfl⟩
    have hstep : bridge = (bridgeOpsMachine β).final t.bridge.value [.refresh] := by
      show bridge = (BridgeOps.refreshCardPresence t.bridge.value).2
      rw [hrefresh]
    dsimp only
    rw [hrefresh]
    cases result with
    | error error =>
      exact ⟨⟨[.refresh], Or.inr rfl, hstep⟩, rfl, _, [], (List.append_nil _).symm, by simp, rfl,
        rfl⟩
    | ok present =>
      dsimp only
      rw [updateSlotPresence_eq]
      refine ⟨⟨[.refresh], Or.inr rfl, hstep⟩, rfl, _, [notification t.slotPresent present], rfl, ?_,
        rfl, rfl⟩
      intro frame hframe
      rw [List.mem_singleton.mp hframe, length_notification]

end CcidTransport

/-- Every run of the transport contains a run of its bridge, call by call by what the call may ask
of it. -/
theorem transport_drives_bridge (β : Type*) [BridgeOps β] :
    Drives (transportMachine β) (bridgeOpsMachine β) (fun t => t.bridge.value)
      TransportOp.Causes := by
  constructor
  intro t op
  cases op with
  | controlRequest requestType request value =>
    obtain ⟨is, his, h⟩ := t.handleControlRequest_advances requestType request value
    exact ⟨is, his, h.bridge⟩
  | bulkOut payload =>
    obtain ⟨is, his, h⟩ := t.handleBulkOut_advances payload
    refine ⟨is, fun i hi => ?_, h.bridge⟩
    obtain ⟨_, command, -, -, hcommand⟩ := his i hi
    exact ⟨command, hcommand⟩
  | bulkIn maxLen => exact ⟨[], rfl, (t.handleBulkIn_advances maxLen).bridge⟩
  | interruptIn => exact t.handleInterruptIn_drives.1

def CcidTransport.NotifiesInTwo {β : Type*} (t : CcidTransport β) : Prop :=
  ∀ frame ∈ t.pendingInterruptFrames, frame.length = 2

theorem CcidTransport.Advances.notifiesInTwo {β : Type*} [BridgeOps β] {t t' : CcidTransport β}
    {is : List BridgeInput} (h : t.Advances t' is) (ht : t.NotifiesInTwo) : t'.NotifiesInTwo := by
  obtain ⟨frames, hframes, htwo⟩ := h.notified
  intro frame hframe
  rw [hframes] at hframe
  rcases List.mem_append.mp hframe with hframe | hframe
  · exact ht frame hframe
  · exact htwo frame hframe

/-- Whatever is called, also behind a panic, notifications have two bytes, and so does what an
interrupt transfer returns, if it returns anything. -/
theorem step_notifiesInTwo {β : Type*} [BridgeOps β] {t : CcidTransport β} (ht : t.NotifiesInTwo)
    (op : TransportOp) :
    ((transportMachine β).step t op).2.NotifiesInTwo ∧
      ∀ bytes, ((transportMachine β).step t op).1 = .interruptIn bytes →
        bytes = [] ∨ bytes.length = 2 := by
  cases op with
  | controlRequest requestType request value =>
    obtain ⟨is, -, h⟩ := t.handleControlRequest_advances requestType request value
    exact ⟨h.notifiesInTwo ht, nofun⟩
  | bulkOut payload =>
    obtain ⟨is, -, h⟩ := t.handleBulkOut_advances payload
    exact ⟨h.notifiesInTwo ht, nofun⟩
  | bulkIn maxLen => exact ⟨(t.handleBulkIn_advances maxLen).notifiesInTwo ht, nofun⟩
  | interruptIn =>
    obtain ⟨-, -, queue, frames, hqueue, htwo, hreply, hafter⟩ := t.handleInterruptIn_drives
    have hall : ∀ frame ∈ queue, frame.length = 2 := by
      intro frame hframe
      rw [hqueue] at hframe
      rcases List.mem_append.mp hframe with hframe | hframe
      · exact ht frame hframe
      · exact htwo frame hframe
    refine ⟨fun frame hframe => ?_, fun bytes hbytes => ?_⟩
    · have hmem : frame ∈ queue.tail := by
        rw [← hafter]
        exact hframe
      exact hall frame (List.mem_of_mem_tail hmem)
    · have hbytes : t.handleInterruptIn.1 = bytes := TransportReply.interruptIn.inj hbytes
      rw [hreply] at hbytes
      cases queue with
      | nil => exact Or.inl hbytes.symm
      | cons first rest =>
        right
        rw [← hbytes]
        exact hall first (by simp)

/-- The bytes that a call writes to bulk OUT. -/
def TransportOp.written : TransportOp → List UInt8
  | .bulkOut payload => payload
  | .controlRequest .. | .bulkIn _ | .interruptIn => []

/-- The calls account for the input: a poll for an interrupt transfer, a command for a frame among
the bytes written, or the `Abort` of a control request. -/
def BridgeInput.IsAskedBy (ops : List TransportOp) : BridgeInput → Prop
  | .refresh => .interruptIn ∈ ops
  | .command c =>
    IsReadFrom (ops.flatMap TransportOp.written) (.command c) ∨
      ∃ value seq, .controlRequest 0x21 ccidAbort value ∈ ops ∧ u16ToLeBytes value = (0, seq) ∧
        c = .abort 0 seq

theorem BridgeInput.IsAskedBy.append {ops : List TransportOp} {i : BridgeInput}
    (h : i.IsAskedBy ops) (op : TransportOp) : i.IsAskedBy (ops ++ [op]) := by
  cases i with
  | refresh => exact List.mem_append_left _ h
  | command c =>
    rcases h with h | ⟨value, seq, hop, hvalue, hcommand⟩
    · rw [BridgeInput.IsAskedBy, List.flatMap_append]
      exact Or.inl (h.mono (List.prefix_append _ _).isInfix)
    · exact Or.inr ⟨value, seq, List.mem_append_left _ hop, hvalue, hcommand⟩

theorem step_asked {β : Type*} [BridgeOps β] {t : CcidTransport β} {ops : List TransportOp}
    (ht : t.pendingOutBuffer <:+ ops.flatMap TransportOp.written) (op : TransportOp) :
    ∃ is, ((transportMachine β).step t op).2.bridge.value =
        (bridgeOpsMachine β).final t.bridge.value is ∧
      ((transportMachine β).step t op).2.pendingOutBuffer <:+
        (ops ++ [op]).flatMap TransportOp.written ∧
      ∀ i ∈ is, i.IsAskedBy (ops ++ [op]) := by
  have hwritten : (ops ++ [op]).flatMap TransportOp.written =
      ops.flatMap TransportOp.written ++ op.written := by simp
  have hlast : op ∈ ops ++ [op] := List.mem_append_right _ (List.mem_singleton_self op)
  rw [hwritten]
  cases op with
  | bulkOut payload =>
    obtain ⟨is, his, h⟩ := t.handleBulkOut_advances payload
    have hkept : t.pendingOutBuffer ++ payload <:+ ops.flatMap TransportOp.written ++ payload := by
      obtain ⟨front, hfront⟩ := ht
      exact ⟨front, by rw [← List.append_assoc, hfront]⟩
    refine ⟨is, h.bridge, h.kept.trans hkept, fun i hi => ?_⟩
    have hread := his i hi
    obtain ⟨_, command, -, -, rfl⟩ := his i hi
    rw [BridgeInput.IsAskedBy, hwritten]
    exact Or.inl (hread.mono hkept.isInfix)
  | controlRequest requestType request value =>
    obtain ⟨is, his, h⟩ := t.handleControlRequest_advances requestType request value
    refine ⟨is, h.bridge, ?_, fun i hi => ?_⟩
    · rw [TransportOp.written, List.append_nil]
      exact h.kept.trans ht
    · rcases his with rfl | ⟨rfl, rfl, seq, hvalue, rfl⟩
      · cases hi
      · obtain rfl := List.mem_singleton.mp hi
        exact Or.inr ⟨value, seq, hlast, hvalue, rfl⟩
  | bulkIn maxLen =>
    have h := t.handleBulkIn_advances maxLen
    refine ⟨[], h.bridge, ?_, by simp⟩
    rw [TransportOp.written, List.append_nil]
    exact h.kept.trans ht
  | interruptIn =>
    obtain ⟨⟨is, his, hbridge⟩, hkept, -⟩ := t.handleInterruptIn_drives
    refine ⟨is, hbridge, ?_, fun i hi => ?_⟩
    · rw [TransportOp.written, List.append_nil]
      exact hkept ▸ ht
    · rcases his with rfl | rfl
      · cases hi
      · obtain rfl := List.mem_singleton.mp hi
        exact hlast

/-- The bridge comes to its state by polls for interrupt transfers, by the commands of frames that are
contiguous in the bytes written, and by the `Abort` of control requests. -/
theorem bridge_asked_by_host {β : Type*} [BridgeOps β] {bridge : β}
    {h : List (Event (CcidTransport β) TransportOp TransportReply)} {t : CcidTransport β}
    (hr : Run (transportMachine β) (.new bridge) h t) :
    ∃ is, t.bridge.value = (bridgeOpsMachine β).final bridge is ∧
      t.pendingOutBuffer <:+ (h.map Event.input).flatMap TransportOp.written ∧
      ∀ i ∈ is, i.IsAskedBy (h.map Event.input) := by
  refine hr.invariant (A := fun _ => True)
    (P := fun h t => ∃ is, t.bridge.value = (bridgeOpsMachine β).final bridge is ∧
      t.pendingOutBuffer <:+ (h.map Event.input).flatMap TransportOp.written ∧
      ∀ i ∈ is, i.IsAskedBy (h.map Event.input)) ?_ ?_ fun _ _ => trivial
  · exact ⟨[], rfl, List.suffix_refl _, by simp⟩
  intro h t op ⟨is, hbridge, hkept, his⟩ _
  obtain ⟨js, hbridge', hkept', hjs⟩ := step_asked hkept op
  rw [List.map_append]
  refine ⟨is ++ js, ?_, hkept', fun i hi => ?_⟩
  · rw [Machine.final_append, ← hbridge]
    exact hbridge'
  · rcases List.mem_append.mp hi with hi | hi
    · exact (his i hi).append op
    · exact hjs i hi

end VirtualCcid.Ccid
