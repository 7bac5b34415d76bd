import VirtualCcid.Ccid.Reassembly

/-! The representation of the transport: what its fields say of each other between calls and at
the head of the loop of `handle_bulk_out`. -/
namespace VirtualCcid.Ccid
open Rust Runs

theorem enqueue_length_le {queue : List (List UInt8)} (h : queue.length ≤ maxPendingInFrames)
    (frame : List UInt8) : (enqueue queue frame).length ≤ maxPendingInFrames := by
  have hmax : maxPendingInFrames = 32 := rfl
  unfold enqueue
  split
  · exact h
  rw [List.length_append, List.length_singleton]
  split
  · rw [List.length_nil]
    omega
  · omega

namespace Endpoint
variable {β : Type*} [BridgeOps β] {e e' : Endpoint β}

def Bounded (e : Endpoint β) : Prop := e.inFrames.length ≤ maxPendingInFrames

omit [BridgeOps β] in
theorem answer_bounded (he : e.Bounded) (response : CcidResponse) (present : Bool) :
    (e.answer response present).Bounded := enqueue_length_le he _

theorem execute_bounded (he : e.Bounded) {command : CcidCommand}
    (h : e.execute command = some e') : e'.Bounded := by
  unfold execute at h
  split at h
  · cases h
  · next response bridge _ =>
    obtain rfl := Option.some.inj h
    have hbridge : Bounded { e with bridge } := he
    exact answer_bounded hbridge response _

theorem complete_bounded {slot seq : UInt8} (h : e.complete slot seq = some e') : e'.Bounded :=
  execute_bounded (Nat.zero_le _) h

theorem receive_bounded (he : e.Bounded) {command : CcidCommand}
    (h : e.receive command = .next e' ∨ e.receive command = .flush e') : e'.Bounded := by
  rcases receive_cases h with ⟨slot, seq, -, -, hx⟩ | ⟨slot, seq, -, -, rfl⟩ |
    ⟨slot, seq, -, -, rfl⟩ | ⟨-, -, hx⟩
  · exact complete_bounded hx
  · exact answer_bounded he _ _
  · exact he
  · have hcleared : Bounded { e with bulkAbort := none } := he
    exact execute_bounded hcleared hx

theorem drain_bounded (he : e.Bounded) (buffer : List UInt8) :
    (ccidFraming.drain react e buffer).1.Bounded := by
  apply Framing.drain_invariant (P := Bounded) ?_ he
  intro s buffer frame rest s' hs hscan hreact
  obtain ⟨command, -, hr⟩ := react_of_scan hscan s
  rw [hr] at hreact
  exact receive_bounded hs hreact

end Endpoint

namespace CcidTransport
variable {β : Type*}

/-- What the fields of the transport say of each other. -/
structure Representation (t : CcidTransport β) : Prop where
  cached : ∀ n, t.nextFrameLen = some n →
    ∃ h : ¬ t.pendingOutBuffer.length < 10, n = frameLength t.pendingOutBuffer h ∧
      n ≤ ccidMaxMessageLength + 10
  unfinished : ∀ h : ¬ t.pendingOutBuffer.length < 10,
    t.pendingOutBuffer.length < frameLength t.pendingOutBuffer h
  short : t.pendingOutBuffer.length < ccidMaxMessageLength + 10
  bounded : t.pendingInFrames.length ≤ maxPendingInFrames
  readyToSend : t.state = .readyToSend ↔ t.pendingInFrames ≠ []
  idle : t.state = .idle ↔ t.pendingInFrames = [] ∧ t.pendingOutBuffer = []
  receiving : t.state = .receiving ↔ t.pendingInFrames = [] ∧ t.pendingOutBuffer ≠ []

theorem representation_assemble {e : Endpoint β} {buffer : List UInt8}
    (hb : scanFrame buffer = .incomplete) (he : e.inFrames.length ≤ maxPendingInFrames) :
    (assemble e buffer).Representation where
  cached n hn := by
    have hn : cachedLen buffer = some n := hn
    unfold cachedLen at hn
    split at hn
    · cases hn
    · next h =>
      obtain rfl := Option.some.inj hn
      exact ⟨h, rfl, (frameLength_of_incomplete hb h).2⟩
  unfinished h := (frameLength_of_incomplete hb h).1
  short := by
    have hmax : ccidMaxMessageLength = 3072 := rfl
    show buffer.length < _
    by_cases h : buffer.length < 10
    · omega
    · have hwaits := frameLength_of_incomplete hb h
      omega
  bounded := he
  readyToSend := by
    show stateOf e.inFrames buffer = _ ↔ e.inFrames ≠ []
    by_cases hq : e.inFrames = [] <;> by_cases hbuf : buffer = [] <;> simp [stateOf, hq, hbuf]
  idle := by
    show stateOf e.inFrames buffer = _ ↔ e.inFrames = [] ∧ buffer = []
    by_cases hq : e.inFrames = [] <;> by_cases hbuf : buffer = [] <;> simp [stateOf, hq, hbuf]
  receiving := by
    show stateOf e.inFrames buffer = _ ↔ e.inFrames = [] ∧ buffer ≠ []
    by_cases hq : e.inFrames = [] <;> by_cases hbuf : buffer = [] <;> simp [stateOf, hq, hbuf]

theorem handleBulkIn_bounded {t : CcidTransport β}
    (ht : t.pendingInFrames.length ≤ maxPendingInFrames) (maxLen : ℕ) :
    (t.handleBulkIn maxLen).2.pendingInFrames.length ≤ maxPendingInFrames := by
  unfold handleBulkIn
  split
  · rw [updateState_pendingInFrames]
    exact ht
  next frame frames hq =>
  rw [hq, List.length_cons] at ht
  dsimp only
  -- What is put back in front takes the place of what was taken.
  split
  · rw [updateState_pendingInFrames]
    dsimp only
    split
    · exact ht
    · omega
  · rw [updateState_pendingInFrames]
    exact ht

variable [BridgeOps β]

theorem handleBulkOut_bounded {t : CcidTransport β} (ht : t.Waits)
    (hq : t.pendingInFrames.length ≤ maxPendingInFrames) (payload : List UInt8)
    (hr : TransportReply.Returns (.bulkOut (t.handleBulkOut payload).1)) :
    (t.handleBulkOut payload).2.pendingInFrames.length ≤ maxPendingInFrames := by
  obtain ⟨e, buffer, rfl, hb⟩ := ht
  obtain ⟨rest, -, heq⟩ := handleBulkOut_assemble e hb payload hr
  rw [heq]
  exact Endpoint.drain_bounded hq (buffer ++ payload)

theorem handleInterruptIn_pendingInFrames {t : CcidTransport β} (ht : t.Waits) :
    t.handleInterruptIn.2.pendingInFrames = t.pendingInFrames := by
  obtain ⟨e, buffer, rfl, -⟩ := ht
  rw [handleInterruptIn_assemble]
  split <;> rfl

theorem handleControlRequest_bounded {t : CcidTransport β} (ht : t.Waits)
    (hq : t.pendingInFrames.length ≤ maxPendingInFrames) (requestType request : UInt8)
    (value : UInt16)
    (hr : TransportReply.Returns (.controlRequest
      (t.handleControlRequest requestType request value).1)) :
    (t.handleControlRequest requestType request value).2.pendingInFrames.length ≤
      maxPendingInFrames := by
  obtain ⟨e, buffer, rfl, -⟩ := ht
  rcases handleControlRequest_cases e buffer requestType request value rfl hr with
    h | ⟨seq, e', hx, h⟩ | ⟨seq, h⟩
  · rw [h]
    exact hq
  · rw [h]
    exact Endpoint.complete_bounded hx
  · rw [h]
    exact hq

end CcidTransport

theorem step_bounded {β : Type*} [BridgeOps β] {t : CcidTransport β} (ht : t.Waits)
    (hq : t.pendingInFrames.length ≤ maxPendingInFrames) (op : TransportOp)
    (hr : ((transportMachine β).event t op).output.Returns) :
    ((transportMachine β).event t op).after.pendingInFrames.length ≤ maxPendingInFrames := by
  cases op with
  | controlRequest requestType request value =>
    exact CcidTransport.handleControlRequest_bounded ht hq requestType request value hr
  | bulkOut payload => exact CcidTransport.handleBulkOut_bounded ht hq payload hr
  | bulkIn maxLen => exact CcidTransport.handleBulkIn_bounded hq maxLen
  | interruptIn =>
    have hsame := CcidTransport.handleInterruptIn_pendingInFrames ht
    show t.handleInterruptIn.2.pendingInFrames.length ≤ _
    rw [hsame]
    exact hq

theorem reachable_representation {β : Type*} [BridgeOps β] {bridge : β} {t : CcidTransport β}
    (hr : (transportMachine β).Reachable (fun e => e.output.Returns) (.new bridge) t) :
    t.Representation := by
  have hinv : t.Waits ∧ t.pendingInFrames.length ≤ maxPendingInFrames := by
    apply hr.invariant (P := fun t => t.Waits ∧ t.pendingInFrames.length ≤ maxPendingInFrames)
    · exact ⟨⟨.new bridge, [], rfl, rfl⟩, Nat.zero_le _⟩
    · intro s op ⟨hs, hq⟩ hreturns
      exact ⟨step_waits hs op hreturns, step_bounded hs hq op hreturns⟩
  obtain ⟨⟨e, buffer, rfl, hb⟩, hq⟩ := hinv
  exact CcidTransport.representation_assemble hb hq

namespace CcidTransport
variable {β : Type*} [BridgeOps β]

/-- The transport at the head of the loop, in the call of `handle_bulk_out` on `t` with
`payload`. -/
inductive LoopHead (t : CcidTransport β) (payload : List UInt8) : CcidTransport β → Prop
  | enter : LoopHead t payload
      { t with pendingOutBuffer := t.pendingOutBuffer ++ payload }.updateState
  | turn {s s' s'' : CcidTransport β} {frame : List UInt8} : LoopHead t payload s →
      s.tryTakeCompleteFrame = (.ok (some frame), s') → s'.handleFrame frame = (.ok (), s'') →
      LoopHead t payload s''

omit [BridgeOps β] in
theorem frame_of_take {e : Endpoint β} {buffer frame : List UInt8} {nextFrameLen : Option ℕ}
    {state : TransportState} {s' : CcidTransport β} (hn : Coherent nextFrameLen buffer)
    (h : (mid e buffer nextFrameLen state).tryTakeCompleteFrame = (.ok (some frame), s')) :
    ∃ rest, ccidFraming.scan buffer = .message frame rest ∧
      s' = mid e rest none (stateOf e.inFrames rest) := by
  rw [tryTakeCompleteFrame_mid e hn] at h
  split at h
  · cases h
  · cases h
  · next frame' rest hscan =>
    cases h
    exact ⟨rest, hscan, rfl⟩

theorem LoopHead.coherent {t s : CcidTransport β} {payload : List UInt8} (ht : t.Waits)
    (h : LoopHead t payload s) :
    ∃ e buffer nextFrameLen state, s = mid e buffer nextFrameLen state ∧
      Coherent nextFrameLen buffer := by
  induction h with
  | enter =>
    obtain ⟨e, buffer, rfl, hb⟩ := ht
    obtain ⟨nextFrameLen, state, hn, hreceived⟩ := receive_mid e hb payload
    exact ⟨e, buffer ++ payload, nextFrameLen, state, hreceived, hn⟩
  | turn _ htake hframe ih =>
    obtain ⟨e, buffer, nextFrameLen, state, rfl, hn⟩ := ih
    obtain ⟨rest, hscan, rfl⟩ := frame_of_take hn htake
    have hshows := react_mid e (stateOf e.inFrames rest) hscan
    rw [hframe] at hshows
    obtain ⟨e', buffer', state', rfl, -⟩ := hshows.of_ok
    exact ⟨e', buffer', none, state', rfl, coherent_none buffer'⟩

/-- A frame that is taken is decoded, and its turn shortens the buffer by a header at least. -/
theorem LoopHead.turn_shortens {t s s' : CcidTransport β} {payload frame : List UInt8}
    (ht : t.Waits) (h : LoopHead t payload s)
    (htake : s.tryTakeCompleteFrame = (.ok (some frame), s')) :
    (∃ command, CcidCommand.decode frame = .ok command) ∧
      ∀ s'', s'.handleFrame frame = (.ok (), s'') →
        s''.pendingOutBuffer.length + 10 ≤ s.pendingOutBuffer.length := by
  obtain ⟨e, buffer, nextFrameLen, state, rfl, hn⟩ := h.coherent ht
  obtain ⟨rest, hscan, rfl⟩ := frame_of_take hn htake
  have hscan' : scanFrame buffer = .message frame rest := hscan
  obtain ⟨-, hheader, -⟩ := whole_of_scan hscan'
  have hlength := congrArg List.length (append_of_scan hscan')
  rw [List.length_append] at hlength
  refine ⟨decode_of_scan hscan, fun s'' hframe => ?_⟩
  show s''.pendingOutBuffer.length + 10 ≤ buffer.length
  have hshows := react_mid e (stateOf e.inFrames rest) hscan
  rw [hframe] at hshows
  obtain ⟨e', buffer', state', rfl, hbuffer⟩ := hshows.of_ok
  show buffer'.length + 10 ≤ buffer.length
  rcases hbuffer with rfl | rfl
  · omega
  · rw [List.length_nil]
    omega

/-- The loop fails at a header that announces too much, and at nothing else. -/
theorem LoopHead.error {t s : CcidTransport β} {payload : List UInt8} (ht : t.Waits)
    (h : LoopHead t payload s) {fuel : ℕ} {error : IoError}
    (hloop : (bulkOutLoop fuel s).1 = .error (.error error)) :
    ∃ s', LoopHead t payload s' ∧ ∃ hlen : ¬ s'.pendingOutBuffer.length < 10,
      ccidMaxMessageLength + 10 < frameLength s'.pendingOutBuffer hlen ∧
        error = tooLong (frameLength s'.pendingOutBuffer hlen) := by
  induction fuel generalizing s with
  | zero => cases hloop
  | succ fuel ih =>
    obtain ⟨e, buffer, nextFrameLen, state, rfl, hn⟩ := h.coherent ht
    rw [bulkOutLoop, tryTakeCompleteFrame_mid e hn] at hloop
    cases hscan : scanFrame buffer with
    | incomplete =>
      rw [hscan] at hloop
      cases hloop
    | refused n =>
      rw [hscan] at hloop
      cases hloop
      refine ⟨_, h, ?_⟩
      obtain ⟨hlen, hmax, rfl⟩ := refused_of_scan hscan
      exact ⟨hlen, hmax, rfl⟩
    | message frame rest =>
      rw [hscan] at hloop
      dsimp only at hloop
      have hmessage : ccidFraming.scan buffer = .message frame rest := hscan
      have hshows := react_mid e (stateOf e.inFrames rest) hmessage
      obtain ⟨⟨result, s''⟩, hframe⟩ : ∃ handled,
        (mid e rest none (stateOf e.inFrames rest)).handleFrame frame = handled := ⟨_, rfl⟩
      rw [hframe] at hloop hshows
      cases result with
      | ok =>
        exact ih (h.turn (take_message e hn hscan) hframe) hloop
      | error fault =>
        obtain ⟨panic, rfl⟩ := hshows.of_error
        cases hloop

theorem lockedCommand_ends (t : CcidTransport β) (command : CcidCommand) :
    (t.lockedCommand command).1 ≠ .error .diverge := by
  unfold lockedCommand
  split
  · rintro ⟨⟩
  split <;> rintro ⟨⟩

theorem expectAbort_ends (t : CcidTransport β) (slot seq : UInt8) :
    (t.expectAbort slot seq).1 ≠ .error .diverge := by
  have hfinish : (t.finishAbort slot seq).1 ≠ .error .diverge := by
    unfold finishAbort
    dsimp only
    split
    · next fault t' heq =>
      intro hdiverge
      obtain rfl : fault = .diverge := Except.error.inj hdiverge
      exact lockedCommand_ends _ _ (congrArg Prod.fst heq)
    · rintro ⟨⟩
  unfold expectAbort
  split
  · rintro ⟨⟩
  split
  · split
    · rintro ⟨⟩
    · exact hfinish
  · rintro ⟨⟩

theorem handleControlRequest_ends (t : CcidTransport β) (requestType request : UInt8)
    (value : UInt16) : (t.handleControlRequest requestType request value).1 ≠ .error .diverge := by
  unfold handleControlRequest
  split
  · rintro ⟨⟩
  split
  · rintro ⟨⟩
  split
  · dsimp only
    split
    · next fault t' heq =>
      intro hdiverge
      obtain rfl : fault = .diverge := Except.error.inj hdiverge
      exact expectAbort_ends t _ _ (congrArg Prod.fst heq)
    · rintro ⟨⟩
  · rintro ⟨⟩

theorem handleBulkOut_ends {t : CcidTransport β} (ht : t.Waits) (payload : List UInt8) :
    (t.handleBulkOut payload).1 ≠ .error .diverge := by
  obtain ⟨e, buffer, rfl, hb⟩ := ht
  have h := handleBulkOut_refines e hb payload
  obtain ⟨⟨e', ending⟩, hd⟩ : ∃ drained,
    ccidFraming.drain Endpoint.react e (buffer ++ payload) = drained := ⟨_, rfl⟩
  rw [hd] at h
  intro hdiverge
  cases ending with
  | waiting rest =>
    rw [show (assemble e buffer).handleBulkOut payload = (.ok (), assemble e' rest) from h]
      at hdiverge
    cases hdiverge
  | refused n =>
    rw [show (assemble e buffer).handleBulkOut payload =
      (.error (.error (tooLong n)), assemble e' []) from h] at hdiverge
    cases hdiverge
  | failed =>
    obtain ⟨panic, hp⟩ := h
    rw [hp] at hdiverge
    cases hdiverge

end CcidTransport

/-- In every state that a run of returning calls reaches, over any bridge, the fields agree; and in
a call of `handle_bulk_out` there every turn of the loop decodes its frame and removes ten bytes at
least, the loop ends, and the only error is that of a header which announces too much. -/
theorem representation_kept {β : Type*} [BridgeOps β] {bridge : β} {t : CcidTransport β}
    (hr : (transportMachine β).Reachable (fun e => e.output.Returns) (.new bridge) t) :
    t.Representation ∧ ∀ payload,
      (∀ s, t.LoopHead payload s → ∀ frame s', s.tryTakeCompleteFrame = (.ok (some frame), s') →
        (∃ command, CcidCommand.decode frame = .ok command) ∧
          ∀ s'', s'.handleFrame frame = (.ok (), s'') →
            s''.pendingOutBuffer.length + 10 ≤ s.pendingOutBuffer.length) ∧
      (t.handleBulkOut payload).1 ≠ .error .diverge ∧
      ∀ error, (t.handleBulkOut payload).1 = .error (.error error) →
        ∃ s, t.LoopHead payload s ∧ ∃ h : ¬ s.pendingOutBuffer.length < 10,
          ccidMaxMessageLength + 10 < frameLength s.pendingOutBuffer h ∧
            error = CcidTransport.tooLong (frameLength s.pendingOutBuffer h) := by
  have ht := reachable_waits hr
  refine ⟨reachable_representation hr, fun payload => ⟨?_, ?_, ?_⟩⟩
  · intro s hs frame s' htake
    exact hs.turn_shortens ht htake
  · exact CcidTransport.handleBulkOut_ends ht payload
  · intro error herror
    exact CcidTransport.LoopHead.enter.error ht herror

/-- Part of a header, and behind it an oversized one. -/
theorem representation_kept_of_oversized :
    let M := transportMachine EmptySlot
    let t := M.final (.new ⟨[]⟩) [.bulkOut [0x65, 0, 0], .bulkIn 64]
    t.Representation ∧ ∃ s, t.LoopHead [0, 1, 0, 0, 0, 0, 0] s ∧
      ∃ h : ¬ s.pendingOutBuffer.length < 10,
        CcidTransport.tooLong 0x100000a =
          CcidTransport.tooLong (frameLength s.pendingOutBuffer h) := by
  intro M t
  have hr : M.Reachable (fun e => e.output.Returns) (.new ⟨[]⟩) t :=
    ⟨_, M.run_of_inputs _ [.bulkOut [0x65, 0, 0], .bulkIn 64],
      by simp [Machine.history, Machine.event]; exact ⟨trivial, trivial⟩⟩
  obtain ⟨hrep, hcalls⟩ := representation_kept hr
  have hrefused : (t.handleBulkOut [0, 1, 0, 0, 0, 0, 0]).1 =
    .error (.error (CcidTransport.tooLong 0x100000a)) := by decide +kernel
  obtain ⟨s, hs, h, -, heq⟩ := (hcalls _).2.2 _ hrefused
  exact ⟨hrep, s, hs, h, heq⟩

end VirtualCcid.Ccid
