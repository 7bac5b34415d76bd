import VirtualCcid.Ccid.Packets
import VirtualCcid.Ccid.Representation
import VirtualCcid.Usbip.Requests

/-! A host that writes one message at a time and reads its answer up to the short packet. To such a
host the device is the bridge: whatever the packets, the polls and the other requests in between,
the k-th transfer it reads is the answer of the bridge to the k-th command. -/
namespace VirtualCcid.Usbip
open Rust Nfc Ccid Runs

/-- What the host has written of the message at hand, whether it waits for the answer and what it
has read of it, what it has asked for so far, and the answers it has read. -/
structure Host where
  message : List UInt8
  awaiting : Bool
  packets : List UInt8
  asked : List BridgeInput
  answers : List (List UInt8)

namespace Host

def start : Host := ⟨[], false, [], [], []⟩

/-- Behind the last byte of a message the host waits for its answer. -/
def write (host : Host) (payload : List UInt8) : Host :=
  match CcidCommand.decode (host.message ++ payload) with
  | .ok command =>
    { host with message := [], awaiting := true, asked := host.asked ++ [.command command] }
  | .error _ => { host with message := host.message ++ payload }

/-- A packet shorter than the read ends the answer. -/
def read (host : Host) (maxLen : ℕ) (bytes : List UInt8) : Host :=
  if bytes.length < maxLen then
    { host with
      awaiting := false, packets := [], answers := host.answers ++ [host.packets ++ bytes] }
  else { host with packets := host.packets ++ bytes }

abbrev Sight := TransportOp × UsbReply

def next (host : Host) : Sight → Host
  | (.bulkOut payload, _) => host.write payload
  | (.bulkIn maxLen, .ok bytes) => host.read maxLen bytes
  | (.interruptIn, _) => { host with asked := host.asked ++ [.refresh] }
  | (.bulkIn _, .error _) | (.controlRequest .., _) => host

/-- The host writes no further than the message at hand, which is no `Abort`, and not before it has
read the answer to the one before; it reads only for an answer, and does not abort. It may poll at
any time. -/
def Permits (host : Host) : Sight → Prop
  | (.bulkOut payload, _) => host.awaiting = false ∧
    ∃ m : BulkMessage, m.command.isAbort = false ∧ host.message ++ payload <+: m.bytes
  | (.bulkIn maxLen, _) => host.awaiting = true ∧ 0 < maxLen
  | (.interruptIn, _) => True
  | (.controlRequest requestType request _, _) => ¬ (requestType = 0x21 ∧ request = ccidAbort)

end Host

def hostMonitor : Monitor Host.Sight Host where
  start := .start
  next := Host.next
  permits := Host.Permits

section AnyBridge
variable {β : Type*} [BridgeOps β]

/-- What the bridge answers to the commands among the inputs. -/
def answersOf (bridge : β) (is : List BridgeInput) : List CcidResponse :=
  ((bridgeOpsMachine β).history bridge is).filterMap fun e =>
    match e.output with
    | .response (.ok response) => some response
    | _ => none

theorem answersOf_append (bridge : β) (is js : List BridgeInput) :
    answersOf bridge (is ++ js) =
      answersOf bridge is ++ answersOf ((bridgeOpsMachine β).final bridge is) js := by
  rw [answersOf, Machine.history_append, List.filterMap_append]
  rfl

theorem answersOf_refresh (bridge : β) : answersOf bridge [.refresh] = [] := rfl

theorem answersOf_command {bridge bridge' : β} {command : CcidCommand} {response : CcidResponse}
    (h : BridgeOps.handleCommand bridge command = (.ok response, bridge')) :
    answersOf bridge [.command command] = [response] := by
  simp [answersOf, Machine.history, Machine.event, bridgeOpsMachine, h]

theorem decode_of_incomplete {buffer : List UInt8} (h : scanFrame buffer = .incomplete) :
    ∃ error, CcidCommand.decode buffer = .error error := by
  unfold CcidCommand.decode
  by_cases hlen : buffer.length < 10
  · rw [dif_pos hlen]
    exact ⟨_, rfl⟩
  · rw [dif_neg hlen]
    have hshort := (frameLength_of_incomplete h hlen).1
    unfold frameLength at hshort
    dsimp only
    rw [if_pos (by omega)]
    exact ⟨_, rfl⟩

theorem scan_of_prefix {m : BulkMessage} {bytes : List UInt8} (h : bytes <+: m.bytes) :
    scanFrame bytes = .incomplete ∨ bytes = m.bytes := by
  obtain ⟨missing, hmissing⟩ := h
  cases missing with
  | nil =>
    rw [List.append_nil] at hmissing
    exact Or.inr hmissing
  | cons byte missing =>
    have hpart : Unfinished bytes := ⟨m, byte :: missing, by simp, hmissing.symm⟩
    exact Or.inl hpart.incomplete

theorem receive_command {e : Endpoint β} (hc : e.controlAbort = none) {command : CcidCommand}
    (ha : command.isAbort = false) :
    e.receive command =
      match { e with bulkAbort := none }.execute command with
      | some e => .next e
      | none => .fail := by
  unfold Endpoint.receive
  rw [hc]
  cases command with
  | abort slot seq => cases ha
  | _ => rfl

/-- The device attends to the host: it holds what there is of the message at hand, or what is owed
of the answer, and nothing else. -/
structure Attends (bridge : β) (host : Host) (e : Endpoint β) : Prop where
  controlAbort : e.controlAbort = none
  asked : e.bridge = (bridgeOpsMachine β).final bridge host.asked
  incomplete : scanFrame host.message = .incomplete
  idle : host.awaiting = false → host.packets = [] ∧ e.inFrames = [] ∧
    (answersOf bridge host.asked).map CcidResponse.encode = host.answers
  owes : host.awaiting = true → host.message = [] ∧ ∃ owed earlier last, e.inFrames = [owed] ∧
    answersOf bridge host.asked = earlier ++ [last] ∧
    earlier.map CcidResponse.encode = host.answers ∧ last.encode = host.packets ++ owed

variable {bridge : β} {host : Host} {e : Endpoint β}

theorem attends_write_part (h : Attends bridge host e) (hawaits : host.awaiting = false)
    {payload : List UInt8} (hpart : scanFrame (host.message ++ payload) = .incomplete) :
    (CcidTransport.assemble e host.message).handleBulkOut payload =
        (.ok (), CcidTransport.assemble e (host.write payload).message) ∧
      Attends bridge (host.write payload) e := by
  obtain ⟨error, hd⟩ := decode_of_incomplete hpart
  have hhost : host.write payload = { host with message := host.message ++ payload } := by
    rw [Host.write, hd]
  have hends := CcidTransport.handleBulkOut_refines e h.incomplete payload
  rw [Framing.drain_incomplete hpart] at hends
  rw [hhost]
  refine ⟨hends, h.controlAbort, h.asked, hpart, h.idle, fun hawaiting => ?_⟩
  rw [show host.awaiting = true from hawaiting] at hawaits
  cases hawaits

/-- The packet that ends the message has its command executed and the answer queued. -/
theorem attends_write_whole (h : Attends bridge host e) (hawaits : host.awaiting = false)
    {m : BulkMessage} (ha : m.command.isAbort = false) {payload : List UInt8}
    (hwhole : host.message ++ payload = m.bytes) {result : Except (Fault IoError) Unit}
    {t : CcidTransport β}
    (hcall : (CcidTransport.assemble e host.message).handleBulkOut payload = (result, t))
    (hr : (TransportReply.bulkOut result).Returns) :
    result = .ok () ∧ ∃ e', t = CcidTransport.assemble e' (host.write payload).message ∧
      Attends bridge (host.write payload) e' := by
  have hscan : ccidFraming.scan m.bytes = .message m.bytes [] := m.scan_bytes
  have hends := CcidTransport.handleBulkOut_refines e h.incomplete payload
  rw [hcall, hwhole, Framing.drain_message hscan,
    Endpoint.react_of_decode m.decode_bytes, receive_command h.controlAbort ha] at hends
  have hhost : host.write payload =
      { host with
        message := [], awaiting := true, asked := host.asked ++ [.command m.command] } := by
    rw [Host.write, hwhole, m.decode_bytes]
  obtain ⟨answer, b, hcommand⟩ : ∃ answer b,
    BridgeOps.handleCommand e.bridge m.command = (answer, b) := ⟨_, _, rfl⟩
  unfold Endpoint.execute at hends
  dsimp only at hends
  rw [hcommand] at hends
  cases answer with
  | error panic =>
    obtain ⟨panic, hp⟩ := hends
    rw [show result = _ from hp] at hr
    cases hr
  | ok response =>
    dsimp only at hends
    rw [Framing.drain_incomplete ccidFraming.scan_nil] at hends
    obtain ⟨rfl, rfl⟩ := Prod.mk.inj (show (result, t) = (.ok (), _) from hends)
    obtain ⟨hpackets, hinFrames, hanswers⟩ := h.idle hawaits
    rw [h.asked] at hcommand
    rw [hhost]
    refine ⟨rfl, _, rfl, h.controlAbort, ?_, scanFrame_nil, nofun, fun _ => ⟨rfl, ?_⟩⟩
    · have hstep : (bridgeOpsMachine β).final ((bridgeOpsMachine β).final bridge host.asked)
          [.command m.command] = b := congrArg Prod.snd hcommand
      rw [Machine.final_append, hstep]
      rfl
    · refine ⟨response.encode, answersOf bridge host.asked, response, ?_, ?_, hanswers, ?_⟩
      · show enqueue e.inFrames response.encode = _
        rw [hinFrames]
        rfl
      · rw [answersOf_append, answersOf_command hcommand]
      · rw [hpackets]
        rfl

omit [BridgeOps β] in
theorem handleBulkIn_assemble (e : Endpoint β) (buffer : List UInt8) {frame : List UInt8}
    {frames : List (List UInt8)} (hq : e.inFrames = frame :: frames) (maxLen : ℕ) :
    (CcidTransport.assemble e buffer).handleBulkIn maxLen =
      (frame.take maxLen, CcidTransport.assemble
        { e with inFrames := (remainder frame maxLen).toList ++ frames } buffer) := by
  have hqueue : (CcidTransport.assemble e buffer).pendingInFrames = frame :: frames := hq
  have hupdated : ∀ inFrames, { CcidTransport.assemble e buffer with
      pendingInFrames := inFrames }.updateState =
        CcidTransport.assemble { e with inFrames } buffer :=
    fun inFrames => CcidTransport.updateState_assemble { e with inFrames } buffer _
  unfold CcidTransport.handleBulkIn remainder
  rw [hqueue]
  dsimp only
  by_cases hle : frame.length ≤ maxLen
  · rw [if_pos hle, if_pos hle, List.take_of_length_le hle, hupdated]
    split
    · rfl
    · rfl
  · rw [if_neg hle, if_neg hle, hupdated]
    rfl

/-- A read returns the next packet of the answer; one that is short ends it. -/
theorem attends_read (h : Attends bridge host e) (hawaits : host.awaiting = true) {maxLen : ℕ}
    (hpos : 0 < maxLen) {bytes : List UInt8} {t : CcidTransport β}
    (hcall : (CcidTransport.assemble e host.message).handleBulkIn maxLen = (bytes, t)) :
    ∃ e', t = CcidTransport.assemble e' (host.read maxLen bytes).message ∧
      Attends bridge (host.read maxLen bytes) e' := by
  obtain ⟨hmessage, owed, earlier, last, hinFrames, hanswers, hearlier, hlast⟩ := h.owes hawaits
  rw [handleBulkIn_assemble e host.message hinFrames, remainder_eq hpos] at hcall
  obtain ⟨rfl, rfl⟩ := Prod.mk.inj hcall
  by_cases hshort : owed.length < maxLen
  · rw [List.take_of_length_le (Nat.le_of_lt hshort), if_pos hshort]
    have hhost : host.read maxLen owed = { host with
        awaiting := false, packets := [], answers := host.answers ++ [host.packets ++ owed] } :=
      if_pos hshort
    rw [hhost]
    refine ⟨_, rfl, h.controlAbort, h.asked, h.incomplete, fun _ => ⟨rfl, rfl, ?_⟩, nofun⟩
    rw [hanswers, List.map_append, hearlier, List.map_singleton, hlast]
  · rw [if_neg hshort]
    have hfull : (owed.take maxLen).length = maxLen :=
      List.length_take_of_le (Nat.le_of_not_lt hshort)
    have hhost : host.read maxLen (owed.take maxLen) =
        { host with packets := host.packets ++ owed.take maxLen } :=
      if_neg (by omega)
    rw [hhost]
    refine ⟨_, rfl, h.controlAbort, h.asked, h.incomplete, fun hidle => ?_, fun _ => ?_⟩
    · rw [show host.awaiting = false from hidle] at hawaits
      cases hawaits
    · refine ⟨hmessage, owed.drop maxLen, earlier, last, rfl, hanswers, hearlier, ?_⟩
      rw [List.append_assoc, List.take_append_drop]
      exact hlast

theorem attends_poll (h : Attends bridge host e) :
    ∃ e', (CcidTransport.assemble e host.message).handleInterruptIn.2 =
        CcidTransport.assemble e' host.message ∧
      Attends bridge { host with asked := host.asked ++ [.refresh] } e' := by
  have hanswers : answersOf bridge (host.asked ++ [.refresh]) = answersOf bridge host.asked := by
    rw [answersOf_append, answersOf_refresh, List.append_nil]
  have hkept : ∀ e' : Endpoint β, e'.controlAbort = e.controlAbort → e'.inFrames = e.inFrames →
      e'.bridge = (BridgeOps.refreshCardPresence e.bridge).2 →
        Attends bridge { host with asked := host.asked ++ [.refresh] } e' := by
    intro e' hcontrol hinFrames hbridge
    refine ⟨hcontrol.trans h.controlAbort, ?_, h.incomplete, fun hidle => ?_, fun hawaits => ?_⟩
    · rw [hbridge, h.asked, Machine.final_append]
      rfl
    · rw [hinFrames, hanswers]
      exact h.idle hidle
    · rw [hinFrames, hanswers]
      exact h.owes hawaits
  rw [CcidTransport.handleInterruptIn_assemble]
  split
  · next heq => exact ⟨_, rfl, hkept _ rfl rfl (by rw [heq])⟩
  · next heq => exact ⟨_, rfl, hkept _ rfl rfl (by rw [heq])⟩

def AttendsTo (bridge : β) (host : Host) (t : CcidTransport β) : Prop :=
  ∃ e, t = CcidTransport.assemble e host.message ∧ Attends bridge host e

theorem step_attends {t : CcidTransport β} (h : AttendsTo bridge host t) (op : TransportOp)
    (hr : ((transportMachine β).step t op).1.Returns)
    (hp : host.Permits (op, ofTransport ((transportMachine β).step t op).1)) :
    AttendsTo bridge (host.next (op, ofTransport ((transportMachine β).step t op).1))
        ((transportMachine β).step t op).2 ∧
      ∀ payload, op = .bulkOut payload → ((transportMachine β).step t op).1 = .bulkOut (.ok ()) := by
  obtain ⟨e, rfl, h⟩ := h
  cases op with
  | bulkOut payload =>
    obtain ⟨hawaits, m, ha, hprefix⟩ := hp
    obtain ⟨result, t, hcall⟩ : ∃ result t,
      (CcidTransport.assemble e host.message).handleBulkOut payload = (result, t) := ⟨_, _, rfl⟩
    have hstep : (transportMachine β).step (CcidTransport.assemble e host.message)
        (.bulkOut payload) = (.bulkOut result, t) := by
      simp only [transportMachine, hcall]
    rw [hstep] at hr ⊢
    rcases scan_of_prefix hprefix with hpart | hwhole
    · obtain ⟨hok, hafter⟩ := attends_write_part h hawaits hpart
      obtain ⟨rfl, rfl⟩ := Prod.mk.inj (hcall.symm.trans hok)
      exact ⟨⟨e, rfl, hafter⟩, fun _ _ => rfl⟩
    · obtain ⟨rfl, e', rfl, hafter⟩ := attends_write_whole h hawaits ha hwhole hcall hr
      exact ⟨⟨e', rfl, hafter⟩, fun _ _ => rfl⟩
  | bulkIn maxLen =>
    obtain ⟨hawaits, hpos⟩ := hp
    obtain ⟨e', ht, hafter⟩ := attends_read h hawaits hpos rfl
    exact ⟨⟨e', ht, hafter⟩, fun _ hop => by cases hop⟩
  | interruptIn =>
    obtain ⟨e', ht, hafter⟩ := attends_poll h
    exact ⟨⟨e', ht, hafter⟩, fun _ hop => by cases hop⟩
  | controlRequest requestType request value =>
    have hsame := CcidTransport.handleControlRequest_other
      (CcidTransport.assemble e host.message) hp value
    exact ⟨⟨e, hsame, h⟩, fun _ hop => by cases hop⟩

/-- Reads of one length take what is owed packet by packet, up to the short one. -/
theorem reads_of_owed {maxLen : ℕ} (hpos : 0 < maxLen) (buffer : List UInt8) {owed : List UInt8}
    (hq : e.inFrames = [owed]) (hawaits : host.awaiting = true) (count : ℕ) :
    let history := (transportMachine β).history (CcidTransport.assemble e buffer)
      (List.replicate count (.bulkIn maxLen))
    let host' := hostMonitor.after host
      (history.map fun c => (c.input, ofTransport c.output))
    (count ≤ owed.length / maxLen → host'.awaiting = true) ∧
      (count = owed.length / maxLen + 1 →
        host'.awaiting = false ∧ host'.answers = host.answers ++ [host.packets ++ owed]) := by
  induction count generalizing host e owed with
  | zero => exact ⟨fun _ => hawaits, nofun⟩
  | succ count ih =>
    have hread := handleBulkIn_assemble e buffer hq maxLen
    rw [remainder_eq hpos] at hread
    have hevent : (transportMachine β).event (CcidTransport.assemble e buffer) (.bulkIn maxLen) =
        ⟨CcidTransport.assemble e buffer, .bulkIn maxLen, .bulkIn (owed.take maxLen),
          CcidTransport.assemble { e with inFrames :=
            (if owed.length < maxLen then none else some (owed.drop maxLen)).toList ++ [] }
              buffer⟩ := by
      simp only [Machine.event, transportMachine, hread]
    have hnext : hostMonitor.next host (.bulkIn maxLen, .ok (owed.take maxLen)) =
        host.read maxLen (owed.take maxLen) := rfl
    dsimp only
    rw [List.replicate_succ, Machine.history, hevent, List.map_cons, Monitor.after_cons]
    dsimp only [ofTransport]
    rw [hnext]
    by_cases hshort : owed.length < maxLen
    · have hdiv : owed.length / maxLen = 0 := Nat.div_eq_of_lt hshort
      have hlast : host.read maxLen owed = { host with
          awaiting := false, packets := [], answers := host.answers ++ [host.packets ++ owed] } :=
        if_pos hshort
      rw [hdiv, List.take_of_length_le (Nat.le_of_lt hshort), hlast]
      refine ⟨by omega, fun hcount => ?_⟩
      obtain rfl : count = 0 := by omega
      exact ⟨rfl, rfl⟩
    · have hfull : (owed.take maxLen).length = maxLen :=
        List.length_take_of_le (Nat.le_of_not_lt hshort)
      have hmore : host.read maxLen (owed.take maxLen) =
          { host with packets := host.packets ++ owed.take maxLen } := if_neg (by omega)
      have hdiv : owed.length / maxLen = (owed.drop maxLen).length / maxLen + 1 := by
        rw [List.length_drop]
        exact Nat.div_eq_sub_div hpos (Nat.le_of_not_lt hshort)
      rw [hmore, if_neg hshort, hdiv]
      have hawaits' : ({ host with packets := host.packets ++ owed.take maxLen } : Host).awaiting =
          true := hawaits
      have hq' : ({ e with inFrames := [owed.drop maxLen] } : Endpoint β).inFrames =
          [owed.drop maxLen] := rfl
      obtain ⟨hwaits, hdone⟩ := ih hq' hawaits'
      refine ⟨fun hcount => hwaits (by omega), fun hcount => ?_⟩
      obtain ⟨hidle, hanswers⟩ := hdone (by omega)
      refine ⟨hidle, hanswers.trans ?_⟩
      rw [List.append_assoc, List.take_append_drop]

/-- No call panicked. -/
def Unharmed (reply : UsbReply) : Prop := ∀ panic, reply ≠ .error (.panic panic)

/-- A call that does not panic returns, since none goes on for ever. -/
theorem returns_of_unharmed {t : CcidTransport β} (ht : t.Waits) (op : TransportOp)
    (h : Unharmed (ofTransport ((transportMachine β).step t op).1)) :
    ((transportMachine β).step t op).1.Returns := by
  cases op with
  | controlRequest requestType request value =>
    have hends := t.handleControlRequest_ends requestType request value
    dsimp only [transportMachine, ofTransport] at h ⊢
    match hresult : (t.handleControlRequest requestType request value).1 with
    | .ok _ | .error (.error _) => trivial
    | .error (.panic panic) => exact absurd hresult (h panic)
    | .error .diverge => exact absurd hresult hends
  | bulkOut payload =>
    have hends := CcidTransport.handleBulkOut_ends ht payload
    dsimp only [transportMachine] at h ⊢
    match hresult : (t.handleBulkOut payload).1 with
    | .ok _ | .error (.error _) => trivial
    | .error (.panic panic) =>
      rw [hresult] at h
      exact absurd rfl (h panic)
    | .error .diverge => exact absurd hresult hends
  | bulkIn | interruptIn => trivial

theorem history_returns {t : CcidTransport β} (ht : t.Waits) {ops : List TransportOp}
    (h : ∀ c ∈ (transportMachine β).history t ops, Unharmed (ofTransport c.output)) :
    ∀ c ∈ (transportMachine β).history t ops, c.output.Returns := by
  induction ops generalizing t with
  | nil =>
    intro c hc
    cases hc
  | cons op ops ih =>
    have hfirst := returns_of_unharmed ht op (h _ List.mem_cons_self)
    have hrest := ih (step_waits ht op hfirst) fun c hc => h c (List.mem_cons_of_mem _ hc)
    intro c hc
    rcases List.mem_cons.mp hc with rfl | hc
    · exact hfirst
    · exact hrest c hc

theorem history_attends {t : CcidTransport β} {ops : List TransportOp} (h : AttendsTo bridge host t)
    (hr : ∀ c ∈ (transportMachine β).history t ops, c.output.Returns)
    (hp : hostMonitor.Accepts host
      (((transportMachine β).history t ops).map fun c => (c.input, ofTransport c.output))) :
    AttendsTo bridge (hostMonitor.after host
        (((transportMachine β).history t ops).map fun c => (c.input, ofTransport c.output)))
        ((transportMachine β).final t ops) ∧
      ∀ c ∈ (transportMachine β).history t ops, ∀ payload, c.input = .bulkOut payload →
        c.output = .bulkOut (.ok ()) := by
  induction ops generalizing t host with
  | nil =>
    refine ⟨h, fun c hc => ?_⟩
    cases hc
  | cons op ops ih =>
    rw [Machine.history, List.map_cons] at hp ⊢
    obtain ⟨hpermits, hrest⟩ := hp
    have hstep := step_attends h op (hr _ List.mem_cons_self) hpermits
    obtain ⟨hfinal, hall⟩ :=
      ih hstep.1 (fun c hc => hr c (List.mem_cons_of_mem _ hc)) hrest
    refine ⟨hfinal, fun c hc => ?_⟩
    have hwritten := hstep.2
    rcases List.mem_cons.mp hc with rfl | hc
    · exact hwritten
    · exact hall c hc

/-- In a run of the device in which no call panics every call of the transport returns. -/
theorem run_returns {usb : UsbIp} {h : List (Event (UsbDevice β) UsbRequest UsbReply)}
    {d : UsbDevice β} (hr : Run (usbMachine usb β) (buildVirtualCcidDevice bridge) h d)
    (hunharmed : ∀ e ∈ h, Unharmed e.output) :
    ∀ c ∈ (transportMachine β).history (.new bridge) (opsOf usb h), c.output.Returns := by
  refine history_returns ⟨.new bridge, [], rfl, rfl⟩ fun c hc => ?_
  have hmem : (c.input, ofTransport c.output) ∈ callsOf usb h := by
    rw [run_calls hr]
    exact List.mem_map_of_mem hc
  obtain ⟨e, he, hcall⟩ := List.mem_filterMap.mp hmem
  cases hop : e.input.op usb with
  | none =>
    rw [hop] at hcall
    cases hcall
  | some op =>
    rw [hop] at hcall
    have houtput : e.output = ofTransport c.output := congrArg Prod.snd (Option.some.inj hcall)
    rw [← houtput]
    exact hunharmed e he

/-- Behind a run in which the host keeps to its turns the device attends to it. -/
theorem run_attends {usb : UsbIp} {h : List (Event (UsbDevice β) UsbRequest UsbReply)}
    {d : UsbDevice β} (hr : Run (usbMachine usb β) (buildVirtualCcidDevice bridge) h d)
    (hunharmed : ∀ e ∈ h, Unharmed e.output)
    (hpolite : hostMonitor.Accepts .start (callsOf usb h)) :
    AttendsTo bridge (hostMonitor.after .start (callsOf usb h)) d.transport ∧
      ∀ payload reply, (.bulkOut payload, reply) ∈ callsOf usb h → reply = .ok [] := by
  have hcalls := run_calls hr
  have hstart : AttendsTo bridge .start (CcidTransport.new bridge) :=
    ⟨.new bridge, rfl, rfl, rfl, scanFrame_nil, fun _ => ⟨rfl, rfl, rfl⟩, nofun⟩
  have hreplies := run_returns hr hunharmed
  have hfinal := (run_transport hr).of_inputs.2
  rw [Machine.history_inputs] at hfinal
  rw [hcalls] at hpolite ⊢
  obtain ⟨hattends, hwritten⟩ := history_attends hstart hreplies hpolite
  refine ⟨hfinal ▸ hattends, fun payload reply hmem => ?_⟩
  obtain ⟨c, hc, hcall⟩ := List.mem_map.mp hmem
  obtain ⟨hinput, houtput⟩ := Prod.mk.inj hcall
  rw [← houtput, hwritten c hc payload hinput]
  rfl

end AnyBridge

/-- To a host that writes one message at a time and reads its answer up to the short packet the device
is its bridge: no packet is refused, the bridge has been asked for the commands and polls in their
order, and the transfers read are its answers, each to the command it was read for. -/
theorem conversation {β : Type*} [BridgeOps β] (usb : UsbIp) (bridge : β)
    {h : List (Event (UsbDevice β) UsbRequest UsbReply)} {d : UsbDevice β}
    (hr : Run (usbMachine usb β) (buildVirtualCcidDevice bridge) h d)
    (hunharmed : ∀ e ∈ h, Unharmed e.output)
    (hpolite : hostMonitor.Accepts .start (callsOf usb h)) :
    let host := hostMonitor.after .start (callsOf usb h)
    d.transport.bridge.value = (bridgeOpsMachine β).final bridge host.asked ∧
      (∀ payload reply, (.bulkOut payload, reply) ∈ callsOf usb h → reply = .ok []) ∧
      (host.awaiting = false →
        (answersOf bridge host.asked).map CcidResponse.encode = host.answers) ∧
      (host.awaiting = true → ∃ earlier last, answersOf bridge host.asked = earlier ++ [last] ∧
        earlier.map CcidResponse.encode = host.answers ∧ host.packets <+: last.encode) := by
  obtain ⟨⟨e, ht, hattends⟩, hwritten⟩ := run_attends hr hunharmed hpolite
  refine ⟨?_, hwritten, fun hidle => (hattends.idle hidle).2.2, fun hawaits => ?_⟩
  · rw [ht]
    exact hattends.asked
  · obtain ⟨-, owed, earlier, last, -, hanswers, hearlier, hlast⟩ := hattends.owes hawaits
    exact ⟨earlier, last, hanswers, hearlier, owed, hlast.symm⟩

/-- The message in two packets, a poll, and the answer in two reads. -/
def statusCalls : List UsbRequest :=
  [.interface ⟨⟨0x01, .bulk, 64, 0⟩, 4, ⟨0, 0, 0, 0, 0⟩, [0x65, 0, 0, 0]⟩,
    .interface ⟨⟨0x82, .interrupt, 8, 255⟩, 8, ⟨0, 0, 0, 0, 0⟩, []⟩,
    .interface ⟨⟨0x01, .bulk, 64, 0⟩, 6, ⟨0, 0, 0, 0, 0⟩, [0, 0, 1, 0, 0, 0]⟩,
    .interface ⟨⟨0x81, .bulk, 64, 0⟩, 8, ⟨0, 0, 0, 0, 0⟩, []⟩,
    .interface ⟨⟨0x81, .bulk, 64, 0⟩, 8, ⟨0, 0, 0, 0, 0⟩, []⟩]

theorem unharmed_of_replies {β : Type*} {h : List (Event (UsbDevice β) UsbRequest UsbReply)}
    {replies : List (List UInt8)} (hreplies : h.map Event.output = replies.map .ok) :
    ∀ e ∈ h, Unharmed e.output := by
  intro e he
  have hmem : e.output ∈ h.map Event.output := List.mem_map_of_mem he
  rw [hreplies] at hmem
  obtain ⟨bytes, -, hbytes⟩ := List.mem_map.mp hmem
  rw [← hbytes]
  exact nofun

theorem status_conversation :
    let h := (usbMachine .standard EmptySlot).history (buildVirtualCcidDevice ⟨[]⟩) statusCalls
    (answersOf (⟨[]⟩ : EmptySlot) [.refresh, .command (.getSlotStatus 0 1)]).map
        CcidResponse.encode =
      (hostMonitor.after .start (callsOf .standard h)).answers := by
  intro h
  have hcalls : callsOf .standard h =
      [(.bulkOut [0x65, 0, 0, 0], .ok []), (.interruptIn, .ok [0x50, 0]),
        (.bulkOut [0, 0, 1, 0, 0, 0], .ok []),
        (.bulkIn 8, .ok [0x81, 0, 0, 0, 0, 0, 1, 2]), (.bulkIn 8, .ok [0, 0])] := by
    decide +kernel
  have hreplies : h.map Event.output =
      [[], [0x50, 0], [], [0x81, 0, 0, 0, 0, 0, 1, 2], [0, 0]].map .ok := by decide +kernel
  have hpolite : hostMonitor.Accepts .start (callsOf .standard h) := by
    rw [hcalls]
    exact ⟨⟨rfl, slotStatusMessage, rfl, [0, 0, 1, 0, 0, 0], rfl⟩, trivial,
      ⟨rfl, slotStatusMessage, rfl, [], rfl⟩, ⟨rfl, by decide⟩, ⟨rfl, by decide⟩, trivial⟩
  have hhost : hostMonitor.after .start (callsOf .standard h) =
      ⟨[], false, [], [.refresh, .command (.getSlotStatus 0 1)],
        [[0x81, 0, 0, 0, 0, 0, 1, 2, 0, 0]]⟩ := by
    rw [hcalls]
    rfl
  have hanswers := (conversation .standard (⟨[]⟩ : EmptySlot)
    (Machine.run_of_inputs _ _ statusCalls) (unharmed_of_replies hreplies) hpolite).2.2.1
  rw [hhost] at hanswers ⊢
  exact hanswers rfl

/-- Of reads of one length, with any requests to the device in between, the one behind the full packets
of what is left of the answer brings its short packet, and none before it does. -/
theorem answer_in_reads {β : Type*} [BridgeOps β] (usb : UsbIp) (bridge : β)
    {h : List (Event (UsbDevice β) UsbRequest UsbReply)} {d : UsbDevice β}
    (hr : Run (usbMachine usb β) (buildVirtualCcidDevice bridge) h d)
    (hunharmed : ∀ e ∈ h, Unharmed e.output)
    (hpolite : hostMonitor.Accepts .start (callsOf usb h))
    (hawaits : (hostMonitor.after .start (callsOf usb h)).awaiting = true) {maxLen : ℕ}
    (hpos : 0 < maxLen) :
    let host := hostMonitor.after .start (callsOf usb h)
    ∃ earlier last, answersOf bridge host.asked = earlier ++ [last] ∧
      ∀ requests count,
        requests.filterMap (UsbRequest.op usb) = List.replicate count (.bulkIn maxLen) →
          let host' := hostMonitor.after host (callsOf usb ((usbMachine usb β).history d requests))
          let full := (last.encode.length - host.packets.length) / maxLen
          (count ≤ full → host'.awaiting = true) ∧
            (count = full + 1 →
              host'.awaiting = false ∧ host'.answers = host.answers ++ [last.encode]) := by
  obtain ⟨⟨e, ht, hattends⟩, -⟩ := run_attends hr hunharmed hpolite
  obtain ⟨-, owed, earlier, last, hinFrames, hanswers, -, hlast⟩ := hattends.owes hawaits
  refine ⟨earlier, last, hanswers, fun requests count hreads => ?_⟩
  have howed : last.encode.length -
      (hostMonitor.after .start (callsOf usb h)).packets.length = owed.length := by
    rw [hlast, List.length_append]
    omega
  have h := reads_of_owed (β := β) hpos (hostMonitor.after .start (callsOf usb h)).message hinFrames
    hawaits count
  rw [callsOf_history, hreads, ht, howed, hlast]
  exact h

theorem status_in_two_reads :
    let M := usbMachine .standard EmptySlot
    let d := M.final (buildVirtualCcidDevice ⟨[]⟩) (statusCalls.take 3)
    let host : Host := ⟨[], true, [], [.refresh, .command (.getSlotStatus 0 1)], []⟩
    (hostMonitor.after host (callsOf .standard (M.history d (statusCalls.drop 3)))).answers =
      (answersOf (⟨[]⟩ : EmptySlot) host.asked).map CcidResponse.encode := by
  intro M d host
  let h := M.history (buildVirtualCcidDevice ⟨[]⟩) (statusCalls.take 3)
  have hcalls : callsOf .standard h =
      [(.bulkOut [0x65, 0, 0, 0], .ok []), (.interruptIn, .ok [0x50, 0]),
        (.bulkOut [0, 0, 1, 0, 0, 0], .ok [])] := by decide +kernel
  have hreplies : h.map Event.output = [[], [0x50, 0], []].map .ok := by decide +kernel
  have hpolite : hostMonitor.Accepts .start (callsOf .standard h) := by
    rw [hcalls]
    exact ⟨⟨rfl, slotStatusMessage, rfl, [0, 0, 1, 0, 0, 0], rfl⟩, trivial,
      ⟨rfl, slotStatusMessage, rfl, [], rfl⟩, trivial⟩
  have hhost : hostMonitor.after .start (callsOf .standard h) = host := by
    rw [hcalls]
    rfl
  obtain ⟨earlier, last, hanswers, hreads⟩ := answer_in_reads .standard (⟨[]⟩ : EmptySlot)
    (M.run_of_inputs _ (statusCalls.take 3)) (unharmed_of_replies hreplies) hpolite
    (by rw [hhost]) (show 0 < 8 by decide)
  have hone : answersOf (⟨[]⟩ : EmptySlot) host.asked =
      [.slotStatus 0 1 (.ok .notPresent) 0 0] := rfl
  rw [hhost] at hanswers hreads
  rw [hone] at hanswers ⊢
  obtain ⟨-, rfl⟩ := List.append_singleton_inj.mp (show [] ++ [_] = earlier ++ [last] from hanswers)
  exact ((hreads (statusCalls.drop 3) 2 rfl).2 (by decide)).2

end VirtualCcid.Usbip
