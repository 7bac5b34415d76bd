import VirtualCcid.Ccid.Endpoint

/-! Reassembly of bulk OUT: however the bytes of the host are cut into packets, the transport
takes the same messages and ends in the same state. -/
namespace VirtualCcid.Ccid
open Rust Runs

/-- The bytes of one message, of a length the transport accepts. -/
structure BulkMessage where
  bytes : List UInt8
  hasHeader : ¬ bytes.length < 10
  whole : frameLength bytes hasHeader = bytes.length
  fits : bytes.length ≤ ccidMaxMessageLength + 10

namespace BulkMessage

theorem scan_bytes (m : BulkMessage) : scanFrame m.bytes = .message m.bytes [] := by
  rw [scanFrame_eq_message]
  refine ⟨m.hasHeader, ?_⟩
  rw [m.whole]
  exact ⟨m.fits, Nat.le_refl _, by simp, by simp⟩

theorem decodes (m : BulkMessage) : ∃ command, CcidCommand.decode m.bytes = .ok command :=
  decode_of_scan m.scan_bytes

def command (m : BulkMessage) : CcidCommand :=
  match CcidCommand.decode m.bytes, m.decodes with
  | .ok command, _ => command
  | .error _, h => False.elim (by simp at h)

theorem decode_bytes (m : BulkMessage) : CcidCommand.decode m.bytes = .ok m.command := by
  obtain ⟨command, hd⟩ := m.decodes
  unfold BulkMessage.command
  split
  · next heq _ => exact heq
  · next heq _ =>
    rw [hd] at heq
    cases heq

end BulkMessage

/-- The beginning of a message that is still to be completed, possibly nothing of it. -/
def Unfinished (tail : List UInt8) : Prop :=
  ∃ m : BulkMessage, ∃ missing, missing ≠ [] ∧ m.bytes = tail ++ missing

theorem Unfinished.incomplete {tail : List UInt8} (h : Unfinished tail) :
    scanFrame tail = .incomplete := by
  obtain ⟨m, missing, hne, heq⟩ := h
  by_cases hlen : tail.length < 10
  · simp [scanFrame, hlen]
  have hm : ¬ (tail ++ missing).length < 10 := heq ▸ m.hasHeader
  have hwhole : frameLength (tail ++ missing) hm = (tail ++ missing).length := by
    have := m.whole
    simp only [heq] at this
    exact this
  have hpos := List.length_pos_iff.mpr hne
  have hfits := m.fits
  rw [heq] at hfits
  rw [frameLength_append hlen] at hwhole
  rw [scanFrame_long hlen, hwhole, if_neg (by omega), if_pos]
  simp only [List.length_append]
  omega

variable {β : Type*} [BridgeOps β]

/-- The bridge answers every command, so its lock is never poisoned. -/
def NeverPanics (β : Type*) [BridgeOps β] : Prop :=
  ∀ (bridge : β) command, ∃ response, (BridgeOps.handleCommand bridge command).1 = .ok response

namespace Endpoint

/-- What an endpoint with no abort pending does with a message: an `Abort` is kept for its other
half, any other command is executed. -/
def take (e : Endpoint β) (frame : List UInt8) : Endpoint β :=
  match e.react frame with
  | .next e' => e'
  | _ => e

theorem execute_of_neverPanics (hb : NeverPanics β) (e : Endpoint β) (command : CcidCommand) :
    ∃ e', e.execute command = some e' ∧ e'.controlAbort = e.controlAbort ∧
      e'.bridge = (BridgeOps.handleCommand e.bridge command).2 := by
  obtain ⟨response, hr⟩ := hb e.bridge command
  unfold execute
  split
  · next heq =>
    rw [heq] at hr
    cases hr
  · next heq => exact ⟨_, rfl, rfl, by rw [heq]; rfl⟩

theorem receive_next (hb : NeverPanics β) {e : Endpoint β} (he : e.controlAbort = none)
    (command : CcidCommand) :
    ∃ e', e.receive command = .next e' ∧ e'.controlAbort = none ∧
      e'.bridge = if command.isAbort then e.bridge
        else (BridgeOps.handleCommand e.bridge command).2 := by
  obtain ⟨bridge, inFrames, interruptFrames, slotPresent, bulkAbort, controlAbort⟩ := e
  obtain rfl : controlAbort = none := he
  obtain ⟨e', hx, hc, hbridge⟩ := execute_of_neverPanics hb
    ⟨bridge, inFrames, interruptFrames, slotPresent, none, none⟩ command
  unfold receive
  cases command with
  | abort slot seq => exact ⟨_, rfl, rfl, rfl⟩
  | _ =>
    dsimp only
    rw [hx]
    exact ⟨e', rfl, hc, hbridge⟩

theorem keeps (hb : NeverPanics β) :
    Framing.Keeps ccidFraming react take (fun e : Endpoint β => e.controlAbort = none) := by
  have hnext : ∀ (e : Endpoint β) {buffer frame rest}, e.controlAbort = none →
      ccidFraming.scan buffer = .message frame rest →
        ∃ e', e.react frame = .next e' ∧ e'.controlAbort = none := by
    intro e buffer frame rest he hscan
    obtain ⟨command, _, hreact⟩ := react_of_scan hscan e
    obtain ⟨e', hr, hc, _⟩ := receive_next hb he command
    exact ⟨e', hreact.trans hr, hc⟩
  constructor
  · intro e buffer frame rest he hscan
    obtain ⟨e', hr, _⟩ := hnext e he hscan
    rw [take, hr]
  · intro e buffer frame rest he hscan
    obtain ⟨e', hr, hc⟩ := hnext e he hscan
    rw [take, hr]
    exact hc

theorem bridge_foldl_take (hb : NeverPanics β) {e : Endpoint β} (he : e.controlAbort = none)
    (messages : List BulkMessage) :
    ((messages.map BulkMessage.bytes).foldl take e).bridge =
      ((messages.map BulkMessage.command).filter fun c => !c.isAbort).foldl
        (fun bridge c => (BridgeOps.handleCommand bridge c).2) e.bridge := by
  induction messages generalizing e with
  | nil => rfl
  | cons m messages ih =>
    obtain ⟨e', hr, hc, hbridge⟩ := receive_next hb he m.command
    have ht : take e m.bytes = e' := by rw [take, react, m.decode_bytes]; simp only [hr]
    simp only [List.map_cons, List.foldl_cons, ht, ih hc, hbridge]
    cases ha : m.command.isAbort <;> simp [ha]

end Endpoint

namespace CcidTransport

theorem packets_of_feed {e e' : Endpoint β} {buffer rest : List UInt8}
    (hb : scanFrame buffer = .incomplete) (packets : List (List UInt8))
    (hf : ccidFraming.feed Endpoint.react e buffer packets = (e', .waiting rest)) :
    (∀ d ∈ (transportMachine β).history (assemble e buffer) (packets.map .bulkOut),
        d.output = .bulkOut (.ok ())) ∧
      (transportMachine β).final (assemble e buffer) (packets.map .bulkOut) =
        assemble e' rest := by
  induction packets generalizing e buffer with
  | nil =>
    simp only [Framing.feed, Prod.mk.injEq, Drained.waiting.injEq] at hf
    obtain ⟨rfl, rfl⟩ := hf
    simp [Machine.history, Machine.final]
  | cons packet packets ih =>
    rw [Framing.feed] at hf
    have hcall := handleBulkOut_refines e hb packet
    obtain ⟨⟨e₁, ending⟩, hd⟩ : ∃ drained,
      ccidFraming.drain Endpoint.react e (buffer ++ packet) = drained := ⟨_, rfl⟩
    cases ending with
    | waiting rest₁ =>
      rw [hd] at hf hcall
      have hcall : (assemble e buffer).handleBulkOut packet = (.ok (), assemble e₁ rest₁) := hcall
      have hevent : (transportMachine β).event (assemble e buffer) (.bulkOut packet) =
          ⟨assemble e buffer, .bulkOut packet, .bulkOut (.ok ()), assemble e₁ rest₁⟩ := by
        simp [Machine.event, transportMachine, hcall]
      obtain ⟨hok, hfinal⟩ := ih (Framing.incomplete_of_waiting hd) hf
      rw [List.map_cons, Machine.history, Machine.final, hevent]
      exact ⟨by simpa using hok, hfinal⟩
    | refused | failed =>
      rw [hd] at hf
      cases hf

end CcidTransport

/-- From a reachable state with no control abort pending, and for a stream that continues what is
buffered to whole messages and possibly part of one more: any two ways to cut the stream into
packets are accepted and end in the same state, and the bridge has been handed the commands of the
messages in their order, without the bulk `Abort` ones. -/
theorem reassembly (hb : NeverPanics β) {bridge : β} {t : CcidTransport β}
    (ht : (transportMachine β).Reachable (fun e => e.output.Returns) (.new bridge) t)
    (hc : t.controlAbort = none) {stream tail : List UInt8} {messages : List BulkMessage}
    (htail : Unfinished tail)
    (hs : t.pendingOutBuffer ++ stream = (messages.map BulkMessage.bytes).flatten ++ tail)
    {packets packets' : List (List UInt8)} (hp : packets.flatten = stream)
    (hp' : packets'.flatten = stream) :
    (∀ d ∈ (transportMachine β).history t (packets.map .bulkOut), d.output = .bulkOut (.ok ())) ∧
      (∀ d ∈ (transportMachine β).history t (packets'.map .bulkOut),
        d.output = .bulkOut (.ok ())) ∧
      (transportMachine β).final t (packets.map .bulkOut) =
        (transportMachine β).final t (packets'.map .bulkOut) ∧
      ((transportMachine β).final t (packets.map .bulkOut)).bridge =
        .new (((messages.map BulkMessage.command).filter fun c => !c.isAbort).foldl
          (fun bridge c => (BridgeOps.handleCommand bridge c).2) t.bridge.value) := by
  obtain ⟨e, buffer, rfl, hw⟩ := reachable_waits ht
  have he : e.controlAbort = none := hc
  have hscan : ∀ m ∈ messages.map BulkMessage.bytes, ccidFraming.scan m = .message m [] := by
    intro m hm
    obtain ⟨m, _, rfl⟩ := List.mem_map.mp hm
    exact m.scan_bytes
  have hfeed : ∀ packets : List (List UInt8), packets.flatten = stream →
      ccidFraming.feed Endpoint.react e buffer packets =
        ((messages.map BulkMessage.bytes).foldl Endpoint.take e, .waiting tail) := by
    intro packets hp
    have hs : buffer ++ packets.flatten = (messages.map BulkMessage.bytes).flatten ++ tail := by
      rw [hp]
      exact hs
    rw [(Endpoint.keeps hb).feed_eq_drain hw he, hs, (Endpoint.keeps hb).drain_messages he hscan]
    exact Framing.drain_incomplete htail.incomplete
  obtain ⟨hok, hfinal⟩ := CcidTransport.packets_of_feed hw packets (hfeed packets hp)
  obtain ⟨hok', hfinal'⟩ := CcidTransport.packets_of_feed hw packets' (hfeed packets' hp')
  refine ⟨hok, hok', hfinal.trans hfinal'.symm, ?_⟩
  rw [hfinal]
  exact congrArg Mutex.new (Endpoint.bridge_foldl_take hb he messages)

/-- An empty slot that notes the commands it is handed. -/
structure EmptySlot where
  commands : List CcidCommand
  deriving DecidableEq

instance : BridgeOps EmptySlot where
  handleCommand s command :=
    (.ok (.slotStatus command.slot command.seq (.ok .notPresent) 0 0),
      ⟨s.commands ++ [command]⟩)
  cardPresent _ := false
  refreshCardPresence s := (.ok false, s)
  currentIccStatus _ := .notPresent

def slotStatusMessage : BulkMessage :=
  ⟨[0x65, 0, 0, 0, 0, 0, 1, 0, 0, 0], by decide, by decide, by decide⟩

/-- A message cut inside its length field and one byte of the next, in two ways. -/
theorem reassembly_of_slot_status :
    let M := transportMachine EmptySlot
    let t := M.final (.new ⟨[]⟩) [.bulkOut [0x65, 0, 0]]
    M.final t [.bulkOut [0, 0, 0, 1, 0, 0, 0, 0x65]] =
        M.final t [.bulkOut [0], .bulkOut [], .bulkOut [0, 0, 1, 0, 0], .bulkOut [0, 0x65]] ∧
      (M.final t [.bulkOut [0, 0, 0, 1, 0, 0, 0, 0x65]]).bridge =
        .new ⟨[.getSlotStatus 0 1]⟩ := by
  intro M t
  have hrun : M.Reachable (fun e => e.output.Returns) (.new ⟨[]⟩) t :=
    ⟨_, M.run_of_inputs _ [.bulkOut [0x65, 0, 0]], by simp [Machine.history, Machine.event]; trivial⟩
  have hs : t.pendingOutBuffer ++ [0, 0, 0, 1, 0, 0, 0, 0x65] =
      ([slotStatusMessage].map BulkMessage.bytes).flatten ++ [0x65] := rfl
  have hp : [[0, 0, 0, 1, 0, 0, 0, 0x65]].flatten = [0, 0, 0, 1, 0, 0, 0, (0x65 : UInt8)] := rfl
  have hp' : [[0], [], [0, 0, 1, 0, 0], [0, 0x65]].flatten =
      [0, 0, 0, 1, 0, 0, 0, (0x65 : UInt8)] := rfl
  have h := reassembly (fun s command => ⟨_, rfl⟩) hrun rfl
    ⟨slotStatusMessage, [0, 0, 0, 0, 0, 1, 0, 0, 0], by decide, rfl⟩ hs hp hp'
  exact ⟨h.2.2.1, h.2.2.2⟩

end VirtualCcid.Ccid
