import VirtualCcid.Ccid.Codec
import VirtualCcid.Ccid.Oversize
import VirtualCcid.Usbip.Conversation
import VirtualCcid.Usbip.Stack

/-! A host that writes ahead. Whatever it reads, polls and asks for in between, and however it cuts
its messages into packets, the bridge is handed its commands: each once, and in their order. -/
namespace VirtualCcid.Usbip
open Rust Nfc Ccid Runs

section AnyBridge
variable {β : Type*} [BridgeOps β]

def commandsOf (is : List BridgeInput) : List CcidCommand :=
  is.filterMap fun
    | .command command => some command
    | .refresh => none

theorem execute_hands {e e' : Endpoint β} {command : CcidCommand} (h : e.execute command = some e') :
    e'.controlAbort = e.controlAbort ∧
      e'.bridge = (bridgeOpsMachine β).final e.bridge [.command command] := by
  have hstep : (bridgeOpsMachine β).final e.bridge [.command command] =
      (BridgeOps.handleCommand e.bridge command).2 := rfl
  unfold Endpoint.execute at h
  split at h
  · cases h
  · next heq =>
    obtain rfl := Option.some.inj h
    rw [hstep, heq]
    exact ⟨rfl, rfl⟩

/-- With no abort pending a message is gone on with behind its command, if it hands one over. -/
theorem receive_hands {e e' : Endpoint β} {command : CcidCommand} (hc : e.controlAbort = none)
    (h : e.receive command = .next e' ∨ e.receive command = .flush e') :
    e.receive command = .next e' ∧ e'.controlAbort = none ∧
      e'.bridge = (bridgeOpsMachine β).final e.bridge
        ((if command.isAbort then [] else [command]).map .command) := by
  cases ha : command.isAbort with
  | true =>
    cases command with
    | abort slot seq =>
      have hreceive : e.receive (.abort slot seq) = .next { e with bulkAbort := some seq } := by
        unfold Endpoint.receive
        rw [hc]
      rw [hreceive] at h ⊢
      obtain rfl := Reaction.next.inj (h.resolve_right fun h => by cases h)
      exact ⟨rfl, hc, rfl⟩
    | _ => cases ha
  | false =>
    rw [receive_command hc ha] at h ⊢
    cases hexecute : { e with bulkAbort := none }.execute command with
    | none =>
      rw [hexecute] at h
      rcases h with h | h
      · cases h
      · cases h
    | some e₁ =>
      rw [hexecute] at h
      obtain rfl := Reaction.next.inj (h.resolve_right fun h => by cases h)
      obtain ⟨hcontrol, hbridge⟩ := execute_hands hexecute
      exact ⟨rfl, hcontrol.trans hc, hbridge⟩

/-- What draining hands to a bridge, if it does not panic: what the noting receiver notes. -/
theorem drain_hands (log : List CcidCommand) {e e' : Endpoint β} {buffer : List UInt8}
    {ending : Drained UInt8} (hc : e.controlAbort = none)
    (h : ccidFraming.drain Endpoint.react e buffer = (e', ending)) (hends : ending ≠ .failed) :
    ∃ commands, e'.controlAbort = none ∧
      e'.bridge = (bridgeOpsMachine β).final e.bridge (commands.map .command) ∧
      ccidFraming.drain note log buffer = (log ++ commands, ending) := by
  induction e, buffer using Framing.drain.induct ccidFraming (@Endpoint.react β _)
    generalizing log with
  | case1 e buffer hscan =>
    rw [Framing.drain_incomplete hscan] at h ⊢
    obtain ⟨rfl, rfl⟩ := Prod.mk.inj h
    exact ⟨[], hc, rfl, by rw [List.append_nil]⟩
  | case2 e buffer n hscan =>
    rw [Framing.drain_refused hscan] at h ⊢
    obtain ⟨rfl, rfl⟩ := Prod.mk.inj h
    exact ⟨[], hc, rfl, by rw [List.append_nil]⟩
  | case3 e buffer frame rest hscan e₁ hreact ih =>
    obtain ⟨command, hd, hreceive⟩ := Endpoint.react_of_scan hscan e
    obtain ⟨-, hc₁, hbridge⟩ := receive_hands hc (Or.inl (hreceive ▸ hreact))
    rw [Framing.drain_message hscan, hreact] at h
    obtain ⟨commands, hc', hbridge', hnote⟩ := ih (log ++ handedOf frame) hc₁ h
    refine ⟨handedOf frame ++ commands, hc', ?_, ?_⟩
    · rw [List.map_append, Machine.final_append, handedOf_eq hd, ← hbridge]
      exact hbridge'
    · rw [Framing.drain_message hscan, ← List.append_assoc]
      exact hnote
  | case4 e buffer frame rest hscan e₁ hreact =>
    obtain ⟨command, hd, hreceive⟩ := Endpoint.react_of_scan hscan e
    obtain ⟨hnext, -⟩ := receive_hands hc (Or.inr (hreceive ▸ hreact))
    rw [← hreceive, hreact] at hnext
    cases hnext
  | case5 e buffer frame rest hscan hreact =>
    rw [Framing.drain_message hscan, hreact] at h
    exact absurd (congrArg Prod.snd h).symm hends

/-- The packets that the host has written. -/
def packetsOf (ops : List TransportOp) : List (List UInt8) :=
  ops.filterMap fun
    | .bulkOut payload => some payload
    | _ => none

theorem packetsOf_append (ops ops' : List TransportOp) :
    packetsOf (ops ++ ops') = packetsOf ops ++ packetsOf ops' := List.filterMap_append

theorem commandsOf_append (is js : List BridgeInput) :
    commandsOf (is ++ js) = commandsOf is ++ commandsOf js := List.filterMap_append

theorem commandsOf_commands (commands : List CcidCommand) :
    commandsOf (commands.map .command) = commands := by
  induction commands with
  | nil => rfl
  | cons command commands ih => exact congrArg (command :: ·) ih

/-- Behind these calls the bridge has been handed what the packets spell, and polled for each
interrupt transfer; the rest of the packets waits. -/
structure Hands (bridge : β) (ops : List TransportOp) (e : Endpoint β) (buffer : List UInt8)
    (is : List BridgeInput) : Prop where
  controlAbort : e.controlAbort = none
  asked : e.bridge = (bridgeOpsMachine β).final bridge is
  spells : ccidFraming.resume note [] [] (packetsOf ops) = (commandsOf is, .waiting buffer)
  incomplete : scanFrame buffer = .incomplete
  polls : is.count .refresh = ops.count .interruptIn

def HandsTo (bridge : β) (ops : List TransportOp) (t : CcidTransport β) : Prop :=
  ∃ e buffer is, t = CcidTransport.assemble e buffer ∧ Hands bridge ops e buffer is

variable {bridge : β} {ops : List TransportOp} {e : Endpoint β} {buffer : List UInt8}
  {is : List BridgeInput}

omit [BridgeOps β] in
theorem handleBulkIn_keeps (e : Endpoint β) (buffer : List UInt8) (maxLen : ℕ) :
    ∃ inFrames, ((CcidTransport.assemble e buffer).handleBulkIn maxLen).2 =
      CcidTransport.assemble { e with inFrames } buffer := by
  cases hq : e.inFrames with
  | nil =>
    have hqueue : (CcidTransport.assemble e buffer).pendingInFrames = [] := hq
    refine ⟨e.inFrames, ?_⟩
    unfold CcidTransport.handleBulkIn
    rw [hqueue]
    exact CcidTransport.updateState_assemble e buffer _
  | cons frame frames =>
    rw [handleBulkIn_assemble e buffer hq]
    exact ⟨_, rfl⟩

theorem count_refresh_commands (commands : List CcidCommand) :
    (commands.map BridgeInput.command).count .refresh = 0 := by
  rw [List.count_eq_zero]
  intro hmem
  obtain ⟨command, -, h⟩ := List.mem_map.mp hmem
  cases h

theorem hands_write (h : Hands bridge ops e buffer is) {payload : List UInt8}
    {result : Except (Fault IoError) Unit} {t : CcidTransport β}
    (hcall : (CcidTransport.assemble e buffer).handleBulkOut payload = (result, t))
    (hr : (TransportReply.bulkOut result).Returns) :
    HandsTo bridge (ops ++ [.bulkOut payload]) t := by
  have hends := CcidTransport.handleBulkOut_refines e h.incomplete payload
  obtain ⟨⟨e', ending⟩, hdrain⟩ : ∃ drained,
    ccidFraming.drain Endpoint.react e (buffer ++ payload) = drained := ⟨_, rfl⟩
  rw [hdrain, hcall] at hends
  have hfailed : ending ≠ .failed := by
    rintro rfl
    obtain ⟨panic, hpanic⟩ := hends
    rw [show result = _ from hpanic] at hr
    cases hr
  obtain ⟨commands, hc', hbridge, hnote⟩ :=
    drain_hands (commandsOf is) h.controlAbort hdrain hfailed
  have hresume : ccidFraming.resume note [] [] (packetsOf (ops ++ [.bulkOut payload])) =
      ccidFraming.resume note (commandsOf is) buffer [payload] := by
    rw [packetsOf_append, Framing.resume_append, h.spells]
    rfl
  have hnoted : ∀ rest, scanFrame rest = .incomplete →
      ccidFraming.resume note (commandsOf is) buffer [payload] =
        (commandsOf is ++ commands, .waiting rest) →
      Hands bridge (ops ++ [.bulkOut payload]) e' rest (is ++ commands.map .command) := by
    intro rest hrest hspells
    refine ⟨hc', ?_, ?_, hrest, ?_⟩
    · rw [Machine.final_append, ← h.asked]
      exact hbridge
    · rw [hresume, hspells, commandsOf_append, commandsOf_commands]
    · rw [List.count_append, List.count_append, h.polls, count_refresh_commands]
      rfl
  cases ending with
  | waiting rest =>
    obtain ⟨-, rfl⟩ := Prod.mk.inj (show (result, t) = (.ok (), _) from hends)
    refine ⟨e', rest, _, rfl, hnoted rest (Framing.incomplete_of_waiting hdrain) ?_⟩
    rw [Framing.resume, hnote]
    rfl
  | refused n =>
    obtain ⟨-, rfl⟩ := Prod.mk.inj (show (result, t) = (.error _, _) from hends)
    refine ⟨e', [], _, rfl, hnoted [] scanFrame_nil ?_⟩
    rw [Framing.resume, hnote]
    rfl
  | failed => exact absurd rfl hfailed

theorem step_hands {t : CcidTransport β} (h : HandsTo bridge ops t) (op : TransportOp)
    (hr : ((transportMachine β).step t op).1.Returns)
    (hop : ∀ value, op ≠ .controlRequest 0x21 ccidAbort value) :
    HandsTo bridge (ops ++ [op]) ((transportMachine β).step t op).2 := by
  obtain ⟨e, buffer, is, rfl, h⟩ := h
  cases op with
  | bulkOut payload =>
    obtain ⟨result, t, hcall⟩ : ∃ result t,
      (CcidTransport.assemble e buffer).handleBulkOut payload = (result, t) := ⟨_, _, rfl⟩
    have hstep : (transportMachine β).step (CcidTransport.assemble e buffer)
        (.bulkOut payload) = (.bulkOut result, t) := by
      simp only [transportMachine, hcall]
    rw [hstep] at hr ⊢
    exact hands_write h hcall hr
  | bulkIn maxLen =>
    obtain ⟨inFrames, hkept⟩ := handleBulkIn_keeps e buffer maxLen
    refine ⟨{ e with inFrames }, buffer, is, hkept, h.controlAbort, h.asked, ?_, h.incomplete, ?_⟩
    · rw [packetsOf_append, show packetsOf [.bulkIn maxLen] = [] from rfl, List.append_nil]
      exact h.spells
    · rw [List.count_append, h.polls]
      rfl
  | interruptIn =>
    have hkept : ∀ e' : Endpoint β, e'.controlAbort = e.controlAbort →
        e'.bridge = (BridgeOps.refreshCardPresence e.bridge).2 →
          Hands bridge (ops ++ [.interruptIn]) e' buffer (is ++ [.refresh]) := by
      intro e' hcontrol hbridge
      refine ⟨hcontrol.trans h.controlAbort, ?_, ?_, h.incomplete, ?_⟩
      · rw [hbridge, h.asked, Machine.final_append]
        rfl
      · rw [packetsOf_append, commandsOf_append]
        exact (List.append_nil (packetsOf ops)).symm ▸ (List.append_nil (commandsOf is)).symm ▸
          h.spells
      · rw [List.count_append, List.count_append, h.polls]
        rfl
    have hpoll := CcidTransport.handleInterruptIn_assemble e buffer
    generalize BridgeOps.refreshCardPresence e.bridge = refreshed at hkept hpoll
    obtain ⟨result, bridge'⟩ := refreshed
    cases result with
    | ok present => exact ⟨_, buffer, _, congrArg Prod.snd hpoll, hkept _ rfl rfl⟩
    | error error => exact ⟨_, buffer, _, congrArg Prod.snd hpoll, hkept _ rfl rfl⟩
  | controlRequest requestType request value =>
    have hother : ¬ (requestType = 0x21 ∧ request = ccidAbort) := by
      rintro ⟨rfl, rfl⟩
      exact hop value rfl
    have hsame := CcidTransport.handleControlRequest_other (CcidTransport.assemble e buffer) hother
      value
    refine ⟨e, buffer, is, hsame, h.controlAbort, h.asked, ?_, h.incomplete, ?_⟩
    · rw [packetsOf_append]
      exact (List.append_nil (packetsOf ops)).symm ▸ h.spells
    · rw [List.count_append, h.polls]
      rfl

theorem history_hands
    (hr : ∀ c ∈ (transportMachine β).history (.new bridge) ops, c.output.Returns)
    (hops : ∀ value, .controlRequest 0x21 ccidAbort value ∉ ops) :
    HandsTo bridge ops ((transportMachine β).final (.new bridge) ops) := by
  have hrun := Machine.run_of_inputs (transportMachine β) (.new bridge) ops
  have hhands := hrun.invariant
    (A := fun c => c.output.Returns ∧ ∀ value, c.input ≠ .controlRequest 0x21 ccidAbort value)
    (P := fun h t => HandsTo bridge (h.map Event.input) t)
    ⟨.new bridge, [], [], rfl, rfl, rfl, rfl, scanFrame_nil, rfl⟩
    (fun h t op hsofar hadmitted => by
      rw [List.map_append]
      exact step_hands hsofar op hadmitted.1 hadmitted.2)
    (fun c hc => by
      refine ⟨hr c hc, fun value hinput => hops value ?_⟩
      have hmem := List.mem_map_of_mem (f := Event.input) hc
      rw [Machine.history_inputs, hinput] at hmem
      exact hmem)
  rw [Machine.history_inputs] at hhands
  exact hhands

theorem resume_messages {messages : List BulkMessage} {packets : List (List UInt8)}
    {tail : List UInt8} (h : packets.flatten = (messages.map BulkMessage.bytes).flatten ++ tail)
    (htail : scanFrame tail = .incomplete) :
    ccidFraming.resume note [] [] packets =
      ((messages.map BulkMessage.command).filter fun c => !c.isAbort, .waiting tail) := by
  have hscan : ∀ frame ∈ messages.map BulkMessage.bytes,
      ccidFraming.scan frame = .message frame [] := by
    intro frame hframe
    obtain ⟨m, -, rfl⟩ := List.mem_map.mp hframe
    exact m.scan_bytes
  have hdrain := note_keeps.drain_messages (s := []) trivial hscan tail
  have hrest : ∀ log, ccidFraming.drain note log tail = (log, .waiting tail) :=
    fun log => Framing.drain_incomplete htail
  rw [foldl_handedOf, List.nil_append, hrest] at hdrain
  have hfeed := note_keeps.feed_eq_drain ccidFraming.scan_nil (s := []) trivial packets
  rw [List.nil_append, h, hdrain] at hfeed
  exact Framing.resume_of_feed hfeed

theorem exists_messages {commands : List CcidCommand} (h : ∀ c ∈ commands, c.Writable) :
    ∃ messages : List BulkMessage, messages.map BulkMessage.bytes = commands.map CcidCommand.encode ∧
      messages.map BulkMessage.command = commands := by
  induction commands with
  | nil => exact ⟨[], rfl, rfl⟩
  | cons command commands ih =>
    have hfirst := h command List.mem_cons_self
    obtain ⟨messages, hbytes, hcommands⟩ := ih fun c hc => h c (List.mem_cons_of_mem _ hc)
    refine ⟨command.message hfirst :: messages, ?_, ?_⟩
    · rw [List.map_cons, List.map_cons, hbytes]
      rfl
    · rw [List.map_cons, CcidCommand.command_message hfirst, hcommands]

theorem flatten_packetsOf (ops : List TransportOp) :
    (packetsOf ops).flatten = ops.flatMap TransportOp.written := by
  induction ops with
  | nil => rfl
  | cons op ops ih =>
    rw [List.flatMap_cons, ← ih]
    cases op with
    | bulkOut payload => rfl
    | bulkIn | interruptIn | controlRequest => rfl

end AnyBridge

/-- If the bytes written to bulk OUT are the messages of these commands and the front of one more, the
bridge is handed the commands but for each `Abort`, once and in their order, however the bytes are
cut. It is polled once for every interrupt transfer, and the rest waits. -/
theorem commands_delivered {β : Type*} [BridgeOps β] (usb : UsbIp) (bridge : β)
    {h : List (Event (UsbDevice β) UsbRequest UsbReply)} {d : UsbDevice β}
    (hr : Run (usbMachine usb β) (buildVirtualCcidDevice bridge) h d)
    (hunharmed : ∀ e ∈ h, Unharmed e.output)
    (hops : ∀ value, .controlRequest 0x21 ccidAbort value ∉ opsOf usb h)
    {commands : List CcidCommand} (hcommands : ∀ c ∈ commands, c.Writable) {tail : List UInt8}
    (htail : Unfinished tail)
    (hwritten : written usb h = commands.flatMap CcidCommand.encode ++ tail) :
    ∃ is, d.transport.bridge.value = (bridgeOpsMachine β).final bridge is ∧
      commandsOf is = commands.filter (fun c => !c.isAbort) ∧
      is.count .refresh = (opsOf usb h).count .interruptIn ∧
      d.transport.pendingOutBuffer = tail := by
  obtain ⟨e, buffer, is, ht, hhands⟩ := history_hands (run_returns hr hunharmed) hops
  have hfinal := (run_transport hr).of_inputs.2
  rw [Machine.history_inputs] at hfinal
  rw [hfinal, ht]
  obtain ⟨messages, hbytes, hmessages⟩ := exists_messages hcommands
  have hstream : (packetsOf (opsOf usb h)).flatten =
      (messages.map BulkMessage.bytes).flatten ++ tail := by
    rw [flatten_packetsOf, hbytes]
    exact hwritten
  have hspells := hhands.spells
  rw [resume_messages hstream htail.incomplete, hmessages] at hspells
  obtain ⟨hspelled, hwaits⟩ := Prod.mk.inj hspells
  exact ⟨is, hhands.asked, hspelled.symm, hhands.polls, (Drained.waiting.inj hwaits).symm⟩

/-- The host powers the card on and asks for the status without a look at the answer, in packets that
are not cut between the two, and has begun with a block. -/
def aheadCommands : List CcidCommand := [.iccPowerOn 0 1 0, .getSlotStatus 0 2]

def aheadRequests : List UsbRequest :=
  [.interface ⟨⟨0x01, .bulk, 64, 0⟩, 4, ⟨0, 0, 0, 0, 0⟩, [0x62, 0, 0, 0]⟩,
    .interface ⟨⟨0x82, .interrupt, 8, 255⟩, 8, ⟨0, 0, 0, 0, 0⟩, []⟩,
    .interface ⟨⟨0x01, .bulk, 64, 0⟩, 18, ⟨0, 0, 0, 0, 0⟩,
      [0, 0, 1, 0, 0, 0, 0x65, 0, 0, 0, 0, 0, 2, 0, 0, 0, 0x6f, 1]⟩]

theorem ahead_delivered :
    let d := (usbMachine .standard (CcidBridge FakeReader)).final
      (buildVirtualCcidDevice statusBridge) aheadRequests
    ∃ is, d.transport.bridge.value =
        (bridgeOpsMachine (CcidBridge FakeReader)).final statusBridge is ∧
      commandsOf is = aheadCommands ∧ d.transport.pendingOutBuffer = [0x6f, 1] := by
  intro d
  let h := (usbMachine .standard (CcidBridge FakeReader)).history
    (buildVirtualCcidDevice statusBridge) aheadRequests
  have hreplies : h.map Event.output = [[], [0x50, 0], []].map .ok := by decide +kernel
  have hops : opsOf .standard h =
      [.bulkOut [0x62, 0, 0, 0], .interruptIn,
        .bulkOut [0, 0, 1, 0, 0, 0, 0x65, 0, 0, 0, 0, 0, 2, 0, 0, 0, 0x6f, 1]] := by decide +kernel
  have hwritable : ∀ c ∈ aheadCommands, c.Writable := by
    intro c hc
    simp only [aheadCommands, List.mem_cons, List.not_mem_nil, or_false] at hc
    rcases hc with rfl | rfl
    · exact ⟨by decide, fun _ _ _ _ _ h => by cases h⟩
    · exact ⟨by decide, fun _ _ _ _ _ h => by cases h⟩
  have hblock : CcidCommand.Writable (.xfrBlock 0 3 0 0 [0]) :=
    ⟨by decide, fun _ _ _ _ _ h => by cases h⟩
  have htail : Unfinished [0x6f, 1] :=
    ⟨CcidCommand.message _ hblock, [0, 0, 0, 0, 3, 0, 0, 0, 0], by decide, rfl⟩
  obtain ⟨is, hbridge, hcommands, -, hwaits⟩ := commands_delivered .standard statusBridge
    (Machine.run_of_inputs _ _ aheadRequests) (unharmed_of_replies hreplies)
    (by
      intro value hmem
      rw [show opsOf .standard _ = _ from hops] at hmem
      simp at hmem)
    hwritable htail (by rw [written, show opsOf .standard _ = _ from hops]; decide)
  exact ⟨is, hbridge, hcommands, hwaits⟩

end VirtualCcid.Usbip
