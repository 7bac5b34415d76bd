import VirtualCcid.Ccid.Abort

/-! A control half of an abort that waits for its bulk half: what the messages in between do, and
what becomes of those behind the bulk half in its packet. -/
namespace VirtualCcid.Ccid
open Rust Nfc Runs

namespace BulkMessage

def slot (m : BulkMessage) : UInt8 := m.bytes.getD 5 0

def seq (m : BulkMessage) : UInt8 := m.bytes.getD 6 0

end BulkMessage

/-- A command carries the slot and the sequence number of its frame. -/
theorem header_of_decode {frame : List UInt8} {command : CcidCommand}
    (hd : CcidCommand.decode frame = .ok command) :
    command.slot = frame.getD 5 0 ∧ command.seq = frame.getD 6 0 := by
  unfold CcidCommand.decode at hd
  by_cases h : frame.length < 10
  · rw [dif_pos h] at hd
    cases hd
  rw [dif_neg h] at hd
  dsimp only at hd
  rcases ite_eq_iff.mp hd with ⟨_, hd⟩ | ⟨_, hd⟩
  · cases hd
  have hd := Except.ok.inj hd
  have hget : ∀ i (hi : i < frame.length), frame.getD i 0 = frame[i] := by
    intro i hi
    rw [List.getD_eq_getElem?_getD, List.getElem?_eq_getElem hi, Option.getD_some]
  have h5 := hget 5 (by omega)
  have h6 := hget 6 (by omega)
  rw [h5, h6, ← hd]
  -- Every branch of the decoder passes the header's slot and sequence number on.
  have hite : ∀ (c : Prop) [Decidable c] (x y : CcidCommand),
      x.slot = frame[5] ∧ x.seq = frame[6] → y.slot = frame[5] ∧ y.seq = frame[6] →
        (if c then x else y).slot = frame[5] ∧ (if c then x else y).seq = frame[6] := by
    intro c _ x y hx hy
    by_cases hc : c
    · rwa [if_pos hc]
    · rwa [if_neg hc]
  repeat' apply hite
  all_goals exact ⟨rfl, rfl⟩

/-- The bytes are these messages, followed by some that do not begin with one. -/
def SplitsInto (buffer : List UInt8) (messages : List BulkMessage) (tail : List UInt8) : Prop :=
  buffer = (messages.map BulkMessage.bytes).flatten ++ tail ∧
    ∀ frame rest, scanFrame tail ≠ .message frame rest

theorem exists_splitsInto (buffer : List UInt8) :
    ∃ messages tail, SplitsInto buffer messages tail := by
  induction hn : buffer.length using Nat.strongRecOn generalizing buffer with
  | ind n ih =>
    by_cases hmessage : ∃ frame rest, scanFrame buffer = .message frame rest
    · obtain ⟨frame, rest, hscan⟩ := hmessage
      have hlt : rest.length < n := hn ▸ ccidFraming.rest_lt hscan
      obtain ⟨messages, tail, hrest, htail⟩ := ih rest.length hlt rest rfl
      obtain ⟨hfits, hframe, hwhole⟩ := whole_of_scan hscan
      refine ⟨⟨frame, hframe, hwhole, hfits⟩ :: messages, tail, ?_, htail⟩
      rw [← append_of_scan hscan, hrest, List.map_cons, List.flatten_cons, List.append_assoc]
    · exact ⟨[], buffer, rfl, fun frame rest hscan => hmessage ⟨frame, rest, hscan⟩⟩

variable {β : Type*} [BridgeOps β]

namespace Endpoint

/-- The endpoint after a message that is answered as aborted. -/
def refuse (e : Endpoint β) (frame : List UInt8) : Endpoint β :=
  match CcidCommand.decode frame with
  | .error _ => e
  | .ok command => e.answer (e.aborted command) (BridgeOps.cardPresent e.bridge)

theorem refuse_controlAbort (e : Endpoint β) (frame : List UInt8) :
    (e.refuse frame).controlAbort = e.controlAbort := by
  unfold refuse
  split <;> rfl

theorem react_refuse {e : Endpoint β} {q : UInt8} (he : e.controlAbort = some (0, q))
    {m : BulkMessage} (hm : m.command ≠ .abort 0 q) :
    e.react m.bytes = .next (e.refuse m.bytes) := by
  rw [react, refuse, m.decode_bytes]
  show e.receive m.command =
    .next (e.answer (e.aborted m.command) (BridgeOps.cardPresent e.bridge))
  simp only [receive, he, hm, if_false]

/-- The frame that answers a message as aborted. -/
def abortedFrame (icc : IccStatus) (m : BulkMessage) : List UInt8 :=
  (CcidResponse.slotStatus m.slot m.seq ⟨icc, .failed⟩ cmdAbortedError 0).encode

theorem refuse_messages (e : Endpoint β) (messages : List BulkMessage) :
    let e' := (messages.map BulkMessage.bytes).foldl refuse e
    e'.bridge = e.bridge ∧ e'.controlAbort = e.controlAbort ∧ e'.bulkAbort = e.bulkAbort ∧
      e'.inFrames = (messages.map (abortedFrame (BridgeOps.currentIccStatus e.bridge))).foldl
        enqueue e.inFrames := by
  induction messages generalizing e with
  | nil => exact ⟨rfl, rfl, rfl, rfl⟩
  | cons m messages ih =>
    obtain ⟨hslot, hseq⟩ := header_of_decode m.decode_bytes
    have hrefuse : e.refuse m.bytes =
        e.answer (.slotStatus m.slot m.seq ⟨BridgeOps.currentIccStatus e.bridge, .failed⟩
          cmdAbortedError 0) (BridgeOps.cardPresent e.bridge) := by
      rw [refuse, m.decode_bytes]
      show e.answer (.slotStatus m.command.slot m.command.seq _ _ _) _ = _
      rw [hslot, hseq]
      rfl
    have hrest := ih (e.refuse m.bytes)
    rw [hrefuse] at hrest
    rw [List.map_cons, List.foldl_cons, hrefuse, List.map_cons, List.foldl_cons]
    exact hrest

theorem drain_refuse {e : Endpoint β} {q : UInt8} (he : e.controlAbort = some (0, q))
    {messages : List BulkMessage} (hm : ∀ m ∈ messages, m.command ≠ .abort 0 q)
    (tail : List UInt8) :
    ccidFraming.drain react e ((messages.map BulkMessage.bytes).flatten ++ tail) =
      ccidFraming.drain react ((messages.map BulkMessage.bytes).foldl refuse e) tail := by
  have taken : ∀ (e : Endpoint β) frame, e.controlAbort = some (0, q) →
      (∃ m : BulkMessage, m.bytes = frame ∧ m.command ≠ .abort 0 q) →
        e.react frame = .next (e.refuse frame) ∧
          (e.refuse frame).controlAbort = some (0, q) := by
    rintro e _ he ⟨m, rfl, hm⟩
    exact ⟨react_refuse he hm, (refuse_controlAbort e m.bytes).trans he⟩
  have hbytes : ∀ frame ∈ messages.map BulkMessage.bytes,
      ccidFraming.scan frame = .message frame [] ∧
        ∃ m : BulkMessage, m.bytes = frame ∧ m.command ≠ .abort 0 q := by
    intro frame hframe
    obtain ⟨m, hmem, rfl⟩ := List.mem_map.mp hframe
    exact ⟨m.scan_bytes, m, rfl, hm m hmem⟩
  exact (Framing.drain_taken taken he hbytes tail).1

end Endpoint

namespace CcidTransport

omit [BridgeOps β] in
theorem foldl_pushInFrame (t : CcidTransport β) (frames : List (List UInt8)) :
    (frames.foldl pushInFrame t).pendingInFrames = frames.foldl enqueue t.pendingInFrames := by
  induction frames generalizing t with
  | nil => rfl
  | cons frame frames ih =>
    rw [List.foldl_cons, List.foldl_cons, ih, pushInFrame_eq]

/-- A packet whose messages were only refused: the bridge and the two halves of the abort are as
before, and each message is answered as aborted. -/
structure Frozen (t : CcidTransport β) (messages : List BulkMessage) (t' : CcidTransport β) :
    Prop where
  bridge : t'.bridge = t.bridge
  controlAbort : t'.controlAbort = t.controlAbort
  bulkAbort : t'.bulkAbort = t.bulkAbort
  answers : t'.pendingInFrames =
    ((messages.map (Endpoint.abortedFrame (BridgeOps.currentIccStatus t.bridge.value))).foldl
      pushInFrame t).pendingInFrames

/-- While a control half waits for its bulk half, no other message reaches the bridge, whatever
bridge that is: each that a packet completes is answered as aborted. An announced length over the
limit behind them ends the call with an error. -/
theorem control_abort_freezes {bridge : β} {t : CcidTransport β}
    (ht : (transportMachine β).Reachable (fun e => e.output.Returns) (.new bridge) t) {q : UInt8}
    (hq : t.controlAbort = some (0, q)) (payload : List UInt8) :
    (∃ messages tail, SplitsInto (t.pendingOutBuffer ++ payload) messages tail) ∧
      ∀ messages tail, SplitsInto (t.pendingOutBuffer ++ payload) messages tail →
        (∀ m ∈ messages, m.command ≠ .abort 0 q) →
          t.Frozen messages (t.handleBulkOut payload).2 ∧
            (scanFrame tail = .incomplete → (t.handleBulkOut payload).1 = .ok ()) := by
  refine ⟨exists_splitsInto _, fun messages tail ⟨hsplit, htail⟩ hm => ?_⟩
  obtain ⟨e, buffer, rfl, hb⟩ := reachable_waits ht
  have he : e.controlAbort = some (0, q) := hq
  have hbuffer : buffer ++ payload = (messages.map BulkMessage.bytes).flatten ++ tail := hsplit
  obtain ⟨hbridge, hcontrol, hbulk, hframes⟩ := e.refuse_messages messages
  -- Whatever is left of the buffer, the endpoint has refused the messages and done nothing else.
  have hfrozen : ∀ rest, (assemble e buffer).Frozen messages
      (assemble ((messages.map BulkMessage.bytes).foldl Endpoint.refuse e) rest) := by
    intro rest
    refine ⟨congrArg Mutex.new hbridge, hcontrol, hbulk, ?_⟩
    rw [foldl_pushInFrame]
    exact hframes
  have hcall := handleBulkOut_refines e hb payload
  rw [hbuffer, Endpoint.drain_refuse he hm] at hcall
  match hscan : scanFrame tail with
  | .incomplete =>
    rw [Framing.drain_incomplete hscan] at hcall
    have hend : (assemble e buffer).handleBulkOut payload = (.ok (), assemble _ tail) := hcall
    rw [hend]
    exact ⟨hfrozen tail, fun _ => rfl⟩
  | .refused n =>
    rw [Framing.drain_refused hscan] at hcall
    have hend : (assemble e buffer).handleBulkOut payload =
      (.error (.error (tooLong n)), assemble _ []) := hcall
    rw [hend]
    refine ⟨hfrozen [], ?_⟩
    rintro ⟨⟩
  | .message frame rest => exact absurd hscan (htail frame rest)

/-- A status request, an `Abort` for the wrong slot and the first byte of a third message. -/
theorem control_abort_freezes_two_messages :
    let t := (transportMachine (CcidBridge DummyReader)).final (.new (.new DummyReader.opened))
      [abortRequest 0 7]
    t.Frozen [slotStatusMessage, abortSlotOne]
        (t.handleBulkOut (slotStatusMessage.bytes ++ abortSlotOne.bytes ++ [0x65])).2 := by
  intro t
  have hrun := (transportMachine (CcidBridge DummyReader)).run_of_inputs
    (.new (.new DummyReader.opened)) [abortRequest 0 7]
  have hreachable : (transportMachine (CcidBridge DummyReader)).Reachable
    (fun e => e.output.Returns) (.new (.new DummyReader.opened)) t := ⟨_, hrun, by decide⟩
  have htail : scanFrame [0x65] = .incomplete := rfl
  have hsplit : SplitsInto
      (t.pendingOutBuffer ++ (slotStatusMessage.bytes ++ abortSlotOne.bytes ++ [0x65]))
      [slotStatusMessage, abortSlotOne] [0x65] := ⟨rfl, by simp [htail]⟩
  have hfrozen := (control_abort_freezes (q := 7) hreachable rfl _).2 _ _ hsplit (by decide)
  exact hfrozen.1

end CcidTransport

/-! ### What follows the bulk half in its packet -/

namespace Endpoint

/-- More than `n` notifications are queued, or no fewer and an `Abort` is remembered. -/
def Beyond (n : ℕ) (e : Endpoint β) : Prop :=
  e.controlAbort = none ∧
    (n < e.interruptFrames.length ∨ n ≤ e.interruptFrames.length ∧ e.bulkAbort ≠ none)

omit [BridgeOps β] in
theorem Beyond.le {n : ℕ} {e : Endpoint β} (h : e.Beyond n) : n ≤ e.interruptFrames.length := by
  have := h.2
  omega

/-- With no abort pending every message is told about or remembered, and none clears the buffer. -/
theorem receive_beyond {n : ℕ} {e : Endpoint β} (hc : e.controlAbort = none)
    (hn : n ≤ e.interruptFrames.length) (command : CcidCommand) :
    (∃ e', e.receive command = .next e' ∧ e'.Beyond n) ∨ e.receive command = .fail := by
  obtain ⟨bridge, inFrames, interruptFrames, slotPresent, bulkAbort, controlAbort⟩ := e
  obtain rfl : controlAbort = none := hc
  have hexecute : ∀ e', execute ⟨bridge, inFrames, interruptFrames, slotPresent, none, none⟩
      command = some e' → e'.Beyond n := by
    intro e' hx
    unfold execute at hx
    split at hx
    · cases hx
    · obtain rfl := Option.some.inj hx
      refine ⟨rfl, .inl ?_⟩
      simp only [answer, List.length_append, List.length_singleton]
      have hn : n ≤ interruptFrames.length := hn
      omega
  unfold receive
  cases command with
  | abort slot seq => exact .inl ⟨_, rfl, rfl, .inr ⟨hn, by simp⟩⟩
  | _ =>
    dsimp only
    split
    · next e' hx => exact .inl ⟨e', rfl, hexecute e' hx⟩
    · exact .inr rfl

theorem react_beyond {n : ℕ} {e : Endpoint β} (he : e.Beyond n)
    {buffer frame rest : List UInt8} (hscan : ccidFraming.scan buffer = .message frame rest) :
    (∃ e', e.react frame = .next e' ∧ e'.Beyond n) ∨ e.react frame = .fail := by
  obtain ⟨command, _, hr⟩ := react_of_scan hscan e
  rw [hr]
  exact receive_beyond he.1 he.le command

theorem drain_beyond {n : ℕ} {e : Endpoint β} (he : e.Beyond n) (buffer : List UInt8) :
    (ccidFraming.drain react e buffer).1.Beyond n := by
  refine Framing.drain_invariant (fun {e buffer frame rest e'} he hscan hreact => ?_) he buffer
  rcases react_beyond he hscan with ⟨e'', hr, he''⟩ | hr
  · rw [hr] at hreact
    rcases hreact with hreact | hreact
    · exact Reaction.next.inj hreact ▸ he''
    · cases hreact
  · rw [hr] at hreact
    rcases hreact with hreact | hreact <;> cases hreact

end Endpoint

namespace CcidTransport

/-- A call that panics leaves the lock poisoned. -/
def PoisonedByPanic (result : Except (Fault IoError) Unit × CcidTransport β) : Prop :=
  ∀ panic, result.1 = .error (.panic panic) → result.2.bridge.poisoned = true

theorem executeLocked_poisoned (t : CcidTransport β) (command : CcidCommand) :
    PoisonedByPanic (t.executeLocked command) := by
  intro panic hp
  cases hlock : t.bridge.lock with
  | error =>
    rw [executeLocked, lockedCommand, hlock] at hp
    cases hp
  | ok bridge =>
    obtain ⟨result, bridge', hcommand⟩ : ∃ result bridge',
      BridgeOps.handleCommand bridge command = (result, bridge') := ⟨_, _, rfl⟩
    cases result with
    | error panic' => rw [executeLocked_panic hlock hcommand]
    | ok response =>
      rw [executeLocked_ok hlock hcommand] at hp
      cases hp

theorem handleFrame_poisoned (t : CcidTransport β) (frame : List UInt8) :
    PoisonedByPanic (t.handleFrame frame) := by
  have hqueue : ∀ command, PoisonedByPanic (t.queueAbortedResponse command) := by
    intro command panic hp
    unfold queueAbortedResponse at hp
    split at hp <;> cases hp
  unfold handleFrame
  split
  · rintro panic ⟨⟩
  next command _ =>
  split
  · next slot seq _ =>
    split
    · exact executeLocked_poisoned _ (.abort slot seq)
    · exact hqueue command
  · dsimp only
    split
    · rintro panic ⟨⟩
    · exact executeLocked_poisoned _ command

omit [BridgeOps β] in
theorem tryTakeCompleteFrame_poisoned (t : CcidTransport β) (panic : Panic) :
    t.tryTakeCompleteFrame.1 ≠ .error (.panic panic) := by
  unfold tryTakeCompleteFrame
  split
  · rintro ⟨⟩
  dsimp only
  split
  · rintro ⟨⟩
  split <;> rintro ⟨⟩

theorem bulkOutLoop_poisoned (fuel : ℕ) (t : CcidTransport β) :
    PoisonedByPanic (bulkOutLoop fuel t) := by
  induction fuel generalizing t with
  | zero => rintro panic ⟨⟩
  | succ fuel ih =>
    unfold bulkOutLoop
    split
    · next fault t' heq =>
      intro panic hp
      obtain rfl : fault = .panic panic := Except.error.inj hp
      exact absurd (congrArg Prod.fst heq) (tryTakeCompleteFrame_poisoned t panic)
    · rintro panic ⟨⟩
    · next frame t' _ =>
      have hframe := handleFrame_poisoned t' frame
      split
      · next fault t'' heq =>
        rw [heq] at hframe
        exact hframe
      · next t'' _ => exact ih t''

section Packets
variable {ρ : Type*} [NfcReader ρ]

/-- The messages behind the bulk half end in the same state as in a packet of their own. -/
def KeepsWhatFollows (t : CcidTransport (CcidBridge ρ)) (m : BulkMessage)
    (rest : List BulkMessage) : Prop :=
  (t.handleBulkOut (m.bytes ++ (rest.map BulkMessage.bytes).flatten)).2 =
    ((t.handleBulkOut m.bytes).2.handleBulkOut (rest.map BulkMessage.bytes).flatten).2

theorem handleBulkOut_completes {e : Endpoint (CcidBridge ρ)} {q : UInt8}
    (he : e.controlAbort = some (0, q)) {m : BulkMessage} (hm : m.command = .abort 0 q)
    (behind : List UInt8) :
    (assemble e []).handleBulkOut (m.bytes ++ behind) =
      (.ok (), assemble (e.completed q) []) := by
  have hr : e.receive m.command = .flush (e.completed q) := by
    simp [Endpoint.receive, he, hm, Endpoint.complete_eq]
  have hscan := ccidFraming.message_append behind m.scan_bytes
  exact handleBulkOut_flush scanFrame_nil hscan m.decode_bytes hr

omit [NfcReader ρ] in
theorem ne_of_ends {e : Endpoint (CcidBridge ρ)} (he : e.bulkAbort = none)
    {drained : Endpoint (CcidBridge ρ) × Drained UInt8}
    {result : Except (Fault IoError) Unit × CcidTransport (CcidBridge ρ)}
    (hends : Ends drained result) (hp : PoisonedByPanic result)
    (hd : drained.1.Beyond e.interruptFrames.length ∨ drained.2 = .failed) :
    result.2 ≠ assemble e [] := by
  have hassemble : ∀ (e' : Endpoint (CcidBridge ρ)) rest,
      e'.Beyond e.interruptFrames.length → assemble e' rest ≠ assemble e [] := by
    intro e' rest hbeyond heq
    have hinterrupt : e'.interruptFrames = e.interruptFrames :=
      congrArg pendingInterruptFrames heq
    have hbulk : e'.bulkAbort = e.bulkAbort := congrArg bulkAbort heq
    rw [he] at hbulk
    rcases hbeyond.2 with hlt | ⟨_, hremembered⟩
    · rw [hinterrupt] at hlt
      omega
    · exact hremembered hbulk
  obtain ⟨e', ending⟩ := drained
  cases ending with
  | waiting rest =>
    have hend : result = (.ok (), assemble e' rest) := hends
    rw [hend]
    exact hassemble e' rest (hd.resolve_right (by simp))
  | refused n =>
    have hend : result = (.error (.error (tooLong n)), assemble e' []) := hends
    rw [hend]
    exact hassemble e' [] (hd.resolve_right (by simp))
  | failed =>
    obtain ⟨panic, hpanic⟩ := hends
    have hpoisoned := hp panic hpanic
    intro heq
    rw [heq] at hpoisoned
    cases hpoisoned

theorem handleBulkOut_after_completed (e : Endpoint (CcidBridge ρ)) (q : UInt8) (m : BulkMessage)
    (behind : List UInt8) :
    ((assemble (e.completed q) []).handleBulkOut (m.bytes ++ behind)).2 ≠
      assemble (e.completed q) [] := by
  have hcall := handleBulkOut_refines (e.completed q) scanFrame_nil (m.bytes ++ behind)
  apply ne_of_ends rfl hcall (bulkOutLoop_poisoned _ _)
  have hscan := ccidFraming.message_append behind m.scan_bytes
  have hr := Endpoint.react_of_decode m.decode_bytes (e.completed q)
  rw [List.nil_append, Framing.drain_message hscan, hr]
  rcases Endpoint.receive_beyond (e := e.completed q) rfl (Nat.le_refl _) m.command with
    ⟨e', hnext, hbeyond⟩ | hfail
  · rw [hnext]
    exact .inl (Endpoint.drain_beyond hbeyond _)
  · rw [hfail]
    exact .inr rfl

/-- With the control half waiting and nothing buffered, the messages behind the bulk half in its
packet are dropped, which is the same as taking them only if there are none. -/
theorem keeps_what_follows_iff {reader : ρ} {t : CcidTransport (CcidBridge ρ)}
    (ht : (transportMachine _).Reachable (fun e => e.output.Returns) (.new (.new reader)) t)
    {q : UInt8} (hq : t.controlAbort = some (0, q)) (hbuf : t.pendingOutBuffer = [])
    {m : BulkMessage} (hm : m.command = .abort 0 q) (rest : List BulkMessage) :
    t.KeepsWhatFollows m rest ↔ rest = [] := by
  obtain ⟨e, buffer, rfl, _⟩ := reachable_waits ht
  obtain rfl : buffer = [] := hbuf
  have he : e.controlAbort = some (0, q) := hq
  have hone := handleBulkOut_completes he hm []
  rw [List.append_nil] at hone
  unfold KeepsWhatFollows
  rw [handleBulkOut_completes he hm, hone]
  cases rest with
  | nil =>
    have hcall := handleBulkOut_refines (e.completed q) scanFrame_nil []
    rw [List.append_nil, Framing.drain_incomplete scanFrame_nil] at hcall
    have hend : (assemble (e.completed q) []).handleBulkOut [] =
      (.ok (), assemble (e.completed q) []) := hcall
    exact iff_of_true (congrArg Prod.snd hend).symm rfl
  | cons next rest =>
    have hne := handleBulkOut_after_completed e q next (rest.map BulkMessage.bytes).flatten
    exact iff_of_false (fun heq => hne heq.symm) (List.cons_ne_nil _ _)

end Packets

def abortSlotZero : BulkMessage :=
  ⟨[0x72, 0, 0, 0, 0, 0, 7, 0, 0, 0], by decide, by decide, by decide⟩

/-- A status request behind the bulk half gets no response. -/
theorem status_lost_behind_abort :
    ¬ ∀ t : CcidTransport (CcidBridge DummyReader),
      (transportMachine _).Reachable (fun e => e.output.Returns)
        (.new (.new DummyReader.opened)) t →
      ∀ q, t.controlAbort = some (0, q) → t.pendingOutBuffer = [] →
        ∀ m : BulkMessage, m.command = .abort 0 q → ∀ rest, t.KeepsWhatFollows m rest := by
  intro hall
  have hrun := (transportMachine (CcidBridge DummyReader)).run_of_inputs
    (.new (.new DummyReader.opened)) [abortRequest 0 7]
  have hkeeps := hall _ ⟨_, hrun, by decide⟩ 7 rfl rfl abortSlotZero rfl [slotStatusMessage]
  have hlength := congrArg (fun t => t.pendingInFrames.length) hkeeps
  exact absurd hlength (by decide)

theorem nothing_lost_behind_lone_abort :
    let t := (transportMachine (CcidBridge DummyReader)).final (.new (.new DummyReader.opened))
      [abortRequest 0 7]
    t.KeepsWhatFollows abortSlotZero [] := by
  intro t
  have hrun := (transportMachine (CcidBridge DummyReader)).run_of_inputs
    (.new (.new DummyReader.opened)) [abortRequest 0 7]
  exact (keeps_what_follows_iff (t := t)
    ⟨_, hrun, by decide⟩ rfl rfl rfl []).mpr rfl

end CcidTransport

end VirtualCcid.Ccid
