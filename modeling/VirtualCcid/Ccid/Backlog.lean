import VirtualCcid.Ccid.Notification
import VirtualCcid.Ccid.Abort

/-! The backlog of notifications: they are returned in the order they were queued, and are queued
as fast as they are returned or faster. -/
namespace VirtualCcid.Ccid
open Rust Nfc Runs

theorem prefix_of_eq {α : Type*} {xs ys : List α} (h : ys = xs) : xs <+: ys :=
  h ▸ List.prefix_rfl

variable {β : Type*} [BridgeOps β]

namespace Endpoint

theorem execute_interruptFrames {e e' : Endpoint β} {command : CcidCommand}
    (h : e.execute command = some e') : e.interruptFrames <+: e'.interruptFrames := by
  unfold execute at h
  split at h
  · cases h
  · obtain rfl := Option.some.inj h
    exact List.prefix_append _ _

theorem complete_interruptFrames {e e' : Endpoint β} {slot seq : UInt8}
    (h : e.complete slot seq = some e') : e.interruptFrames <+: e'.interruptFrames := by
  have hx : execute { e with bulkAbort := none, controlAbort := none, inFrames := [] }
    (.abort slot seq) = some e' := h
  have hprefix := execute_interruptFrames hx
  exact hprefix

theorem receive_interruptFrames {e e' : Endpoint β} {command : CcidCommand}
    (h : e.receive command = .next e' ∨ e.receive command = .flush e') :
    e.interruptFrames <+: e'.interruptFrames := by
  rcases receive_cases h with ⟨slot, seq, -, -, hx⟩ | ⟨slot, seq, -, -, rfl⟩ |
    ⟨slot, seq, -, -, rfl⟩ | ⟨-, -, hx⟩
  · exact complete_interruptFrames hx
  · exact List.prefix_append _ _
  · exact List.prefix_refl e.interruptFrames
  · have hprefix := execute_interruptFrames hx
    exact hprefix

theorem drain_interruptFrames (e : Endpoint β) (buffer : List UInt8) :
    e.interruptFrames <+: (ccidFraming.drain react e buffer).1.interruptFrames := by
  refine Framing.drain_invariant
    (P := fun e' : Endpoint β => e.interruptFrames <+: e'.interruptFrames)
    (fun {s buffer frame rest s'} hs hscan hreact => ?_) List.prefix_rfl buffer
  obtain ⟨command, _, hr⟩ := react_of_scan hscan s
  rw [hr] at hreact
  exact hs.trans (receive_interruptFrames hreact)

end Endpoint

namespace CcidTransport

theorem handleBulkOut_interruptFrames {t : CcidTransport β} (ht : t.Waits) (payload : List UInt8)
    (hr : (TransportReply.bulkOut (t.handleBulkOut payload).1).Returns) :
    t.pendingInterruptFrames <+: (t.handleBulkOut payload).2.pendingInterruptFrames := by
  obtain ⟨e, buffer, rfl, hb⟩ := ht
  obtain ⟨rest, _, heq⟩ := handleBulkOut_assemble e hb payload hr
  rw [heq]
  exact e.drain_interruptFrames (buffer ++ payload)

theorem handleControlRequest_interruptFrames {t : CcidTransport β} (ht : t.Waits)
    (requestType request : UInt8) (value : UInt16)
    (hr : (TransportReply.controlRequest
      (t.handleControlRequest requestType request value).1).Returns) :
    t.pendingInterruptFrames <+:
      (t.handleControlRequest requestType request value).2.pendingInterruptFrames := by
  obtain ⟨e, buffer, rfl, -⟩ := ht
  rcases handleControlRequest_cases e buffer requestType request value rfl hr with
    h | ⟨seq, e', hx, h⟩ | ⟨seq, h⟩
  · exact prefix_of_eq (congrArg pendingInterruptFrames h)
  · rw [h]
    exact Endpoint.complete_interruptFrames hx
  · have hsame := congrArg pendingInterruptFrames h
    exact prefix_of_eq hsame

/-- The notifications that an interrupt transfer finds: those pending, and that of its poll. -/
def foundFrames (t : CcidTransport β) : List (List UInt8) :=
  t.pendingInterruptFrames ++
    match (BridgeOps.refreshCardPresence t.bridge.value).1 with
    | .ok present => [notification t.slotPresent present]
    | .error _ => []

theorem foundFrames_of_ok {t : CcidTransport β} {present : Bool}
    (h : (BridgeOps.refreshCardPresence t.bridge.value).1 = .ok present) :
    t.foundFrames = t.pendingInterruptFrames ++ [notification t.slotPresent present] := by
  rw [foundFrames, h]

theorem handleInterruptIn_found {t : CcidTransport β} (ht : t.Waits) :
    t.handleInterruptIn.1 = t.foundFrames.headD [] ∧
      t.handleInterruptIn.2.pendingInterruptFrames = t.foundFrames.tail := by
  obtain ⟨e, buffer, rfl, _⟩ := ht
  have hvalue : (assemble e buffer).bridge.value = e.bridge := rfl
  obtain ⟨result, bridge, hrefresh⟩ : ∃ result bridge,
    BridgeOps.refreshCardPresence e.bridge = (result, bridge) := ⟨_, _, rfl⟩
  rw [handleInterruptIn_assemble, foundFrames, hvalue, hrefresh]
  cases result with
  | ok present => exact ⟨rfl, rfl⟩
  | error error =>
    rw [List.append_nil]
    exact ⟨rfl, rfl⟩

theorem foundFrames_prefix {t : CcidTransport β} (ht : t.Waits) :
    t.foundFrames <+:
      t.handleInterruptIn.1 :: t.handleInterruptIn.2.pendingInterruptFrames := by
  obtain ⟨hreply, hleft⟩ := handleInterruptIn_found ht
  rw [hreply, hleft]
  cases t.foundFrames with
  | nil => exact List.nil_prefix
  | cons frame frames => exact List.prefix_rfl

end CcidTransport

abbrev QueueEvent (β : Type*) := Event (CcidTransport β) TransportOp TransportReply

def interruptReplies (h : List (QueueEvent β)) : List (List UInt8) :=
  h.flatMap fun e =>
    match e.output with
    | .interruptIn bytes => [bytes]
    | _ => []

theorem step_in_order {t : CcidTransport β} (ht : t.Waits) (op : TransportOp)
    (hr : ((transportMachine β).event t op).output.Returns) :
    t.pendingInterruptFrames <+: interruptReplies [(transportMachine β).event t op] ++
      ((transportMachine β).event t op).after.pendingInterruptFrames := by
  cases op with
  | controlRequest requestType request value =>
    exact CcidTransport.handleControlRequest_interruptFrames ht requestType request value hr
  | bulkOut payload => exact CcidTransport.handleBulkOut_interruptFrames ht payload hr
  | bulkIn maxLen =>
    obtain ⟨pendingInFrames, nextFrameLen, state, heq⟩ := t.handleBulkIn_eq maxLen
    have hsame : (t.handleBulkIn maxLen).2.pendingInterruptFrames = t.pendingInterruptFrames := by
      rw [heq]
    exact prefix_of_eq hsame
  | interruptIn =>
    have hfound : t.pendingInterruptFrames <+: t.foundFrames := List.prefix_append _ _
    exact hfound.trans (CcidTransport.foundFrames_prefix ht)

omit [BridgeOps β] in
theorem interruptReplies_append (h : List (QueueEvent β)) (e : QueueEvent β) :
    interruptReplies (h ++ [e]) = interruptReplies h ++ interruptReplies [e] := by
  simp [interruptReplies]

/-- A run returns the pending notifications in their order, and those queued in it behind them. -/
theorem run_in_order {s t : CcidTransport β} {h : List (QueueEvent β)} (hs : s.Waits)
    (hr : Run (transportMachine β) s h t) (hreturns : ∀ e ∈ h, e.output.Returns) :
    s.pendingInterruptFrames <+: interruptReplies h ++ t.pendingInterruptFrames := by
  refine (hr.invariant (P := fun h t => t.Waits ∧
    s.pendingInterruptFrames <+: interruptReplies h ++ t.pendingInterruptFrames)
      ⟨hs, List.prefix_rfl⟩ (fun h t op hp hreturns => ?_) hreturns).2
  obtain ⟨ht, hprefix⟩ := hp
  refine ⟨step_waits ht op hreturns, hprefix.trans ?_⟩
  rw [interruptReplies_append, List.append_assoc, List.prefix_append_right_inj]
  exact step_in_order ht op hreturns

/-- A poll that finds the presence `p` of the card queues a notification of it and returns the
oldest one: its own if it is the only one, else it is returned when those before it have been. -/
theorem interrupt_returns_oldest {bridge : β} {s : CcidTransport β}
    (hs : (transportMachine β).Reachable (fun e => e.output.Returns) (.new bridge) s) {p : Bool}
    (hp : (BridgeOps.refreshCardPresence s.bridge.value).1 = .ok p) :
    let own := notification s.slotPresent p
    presenceBit own = p ∧
      s.handleInterruptIn.1 = s.pendingInterruptFrames.headD own ∧
      (presenceBit s.handleInterruptIn.1 = p ↔
        ∀ oldest ∈ s.pendingInterruptFrames.head?, presenceBit oldest = p) ∧
      ∀ h t, Run (transportMachine β) s.handleInterruptIn.2 h t →
        (∀ e ∈ h, e.output.Returns) →
        s.pendingInterruptFrames.length ≤ (interruptReplies h).length →
        (s.handleInterruptIn.1 :: interruptReplies h)[s.pendingInterruptFrames.length]? =
          some own := by
  intro own
  have hw := reachable_waits hs
  have hfound : s.foundFrames = s.pendingInterruptFrames ++ [own] :=
    CcidTransport.foundFrames_of_ok hp
  obtain ⟨hreply, hleft⟩ := CcidTransport.handleInterruptIn_found hw
  have hown : presenceBit own = p := presenceBit_notification _ _
  have hhead : s.handleInterruptIn.1 = s.pendingInterruptFrames.headD own := by
    rw [hreply, hfound]
    cases s.pendingInterruptFrames <;> rfl
  refine ⟨hown, hhead, ?_, ?_⟩
  · rw [hhead]
    cases s.pendingInterruptFrames with
    | nil => simp [hown]
    | cons oldest frames => simp
  · intro h t hr hreturns hlen
    have horder := run_in_order (CcidTransport.handleInterruptIn_waits hw) hr hreturns
    have hall : s.pendingInterruptFrames ++ [own] <+:
        (s.handleInterruptIn.1 :: interruptReplies h) ++ t.pendingInterruptFrames := by
      rw [← hfound]
      apply (CcidTransport.foundFrames_prefix hw).trans
      rw [List.cons_append, List.cons_prefix_cons]
      exact ⟨rfl, horder⟩
    obtain ⟨more, heq⟩ := hall
    have hlt : s.pendingInterruptFrames.length <
        (s.handleInterruptIn.1 :: interruptReplies h).length := by
      rw [List.length_cons]
      omega
    rw [← List.getElem?_append_left hlt, ← heq]
    simp

/-- A card is found by the second poll, behind the status that told there was none. -/
theorem card_reported_after_older_notification :
    ¬ ∀ s : CcidTransport (CcidBridge FakeReader),
      (transportMachine _).Reachable (fun e => e.output.Returns) (.new (.new vanishingCard)) s →
      ∀ p, (BridgeOps.refreshCardPresence s.bridge.value).1 = .ok p →
        presenceBit s.handleInterruptIn.1 = p := by
  intro hall
  have hrun := (transportMachine (CcidBridge FakeReader)).run_of_inputs
    (.new (.new vanishingCard)) [.bulkOut slotStatusMessage.bytes]
  have hcurrent := hall _ ⟨_, hrun, by decide⟩ true rfl
  exact absurd hcurrent (by decide)

theorem interrupt_returns_oldest_of_vanishing :
    let s := (transportMachine (CcidBridge FakeReader)).final (.new (.new vanishingCard))
      [.bulkOut slotStatusMessage.bytes]
    s.handleInterruptIn.1 = [0x50, 0] ∧
      ∀ h t, Run (transportMachine _) s.handleInterruptIn.2 h t →
        (∀ e ∈ h, e.output.Returns) → 1 ≤ (interruptReplies h).length →
        ([0x50, 0] :: interruptReplies h)[1]? = some [0x50, 3] := by
  intro s
  have hrun := (transportMachine (CcidBridge FakeReader)).run_of_inputs
    (.new (.new vanishingCard)) [.bulkOut slotStatusMessage.bytes]
  have hs := interrupt_returns_oldest (s := s) (p := true)
    ⟨_, hrun, by decide⟩ rfl
  have hreply : s.handleInterruptIn.1 = [0x50, 0] := rfl
  have hlen : s.pendingInterruptFrames.length = 1 := rfl
  have hslot : s.slotPresent = false := rfl
  have hown : notification false true = [0x50, 3] := by decide
  rw [hreply, hlen, hslot, hown] at hs
  exact ⟨hreply, hs.2.2.2⟩

/-! ### Growth -/

/-- An interrupt transfer refreshes the presence of the card. -/
def Refreshes (e : QueueEvent β) : Prop :=
  e.input = .interruptIn → (BridgeOps.refreshCardPresence e.before.bridge.value).1.isOk = true

theorem handleInterruptIn_length {t : CcidTransport β} (ht : t.Waits)
    (hf : (BridgeOps.refreshCardPresence t.bridge.value).1.isOk = true) :
    t.handleInterruptIn.2.pendingInterruptFrames.length = t.pendingInterruptFrames.length := by
  cases hp : (BridgeOps.refreshCardPresence t.bridge.value).1 with
  | error error =>
    rw [hp] at hf
    cases hf
  | ok present =>
    rw [(CcidTransport.handleInterruptIn_found ht).2, CcidTransport.foundFrames_of_ok hp]
    simp

theorem step_backlog {t : CcidTransport β} (ht : t.Waits) (op : TransportOp)
    (hr : ((transportMachine β).event t op).output.Returns)
    (hf : Refreshes ((transportMachine β).event t op)) :
    t.pendingInterruptFrames.length ≤
      ((transportMachine β).event t op).after.pendingInterruptFrames.length := by
  have horder := step_in_order ht op hr
  cases op with
  | interruptIn => exact Nat.le_of_eq (handleInterruptIn_length ht (hf rfl)).symm
  | controlRequest | bulkOut | bulkIn => exact horder.length_le

/-- While the polls succeed the backlog never gets shorter. -/
theorem run_backlog {s t : CcidTransport β} {h : List (QueueEvent β)} (hs : s.Waits)
    (hr : Run (transportMachine β) s h t) (hreturns : ∀ e ∈ h, e.output.Returns ∧ Refreshes e) :
    s.pendingInterruptFrames.length ≤ t.pendingInterruptFrames.length := by
  refine (hr.invariant (P := fun _ t => t.Waits ∧
    s.pendingInterruptFrames.length ≤ t.pendingInterruptFrames.length)
      ⟨hs, Nat.le_refl _⟩ (fun _ t op hp hadm => ?_) hreturns).2
  obtain ⟨ht, hle⟩ := hp
  exact ⟨step_waits ht op hadm.1, hle.trans (step_backlog ht op hadm.1 hadm.2)⟩

/-- The next transfer but for those of the other endpoints is an interrupt transfer. -/
def PollsFirst : List TransportOp → Prop
  | [] => False
  | .interruptIn :: _ => True
  | .bulkOut _ :: _ => False
  | _ :: ops => PollsFirst ops

/-- The host polls the interrupt endpoint after each packet it sends, before the next one. -/
def PolledAfterCommands : List TransportOp → Prop
  | [] => True
  | .bulkOut _ :: ops => PollsFirst ops ∧ PolledAfterCommands ops
  | _ :: ops => PolledAfterCommands ops

theorem pollsFirst_append {ops : List TransportOp} (h : PollsFirst ops) (more : List TransportOp) :
    PollsFirst (ops ++ more) := by
  induction ops with
  | nil => exact h.elim
  | cons op ops ih =>
    cases op with
    | interruptIn => trivial
    | bulkOut => exact h.elim
    | controlRequest | bulkIn => exact ih h

theorem polledAfterCommands_append {ops more : List TransportOp} (h : PolledAfterCommands ops)
    (hmore : PolledAfterCommands more) : PolledAfterCommands (ops ++ more) := by
  induction ops with
  | nil => exact hmore
  | cons op ops ih =>
    cases op with
    | bulkOut => exact ⟨pollsFirst_append h.1 more, ih h.2⟩
    | controlRequest | bulkIn | interruptIn => exact ih h

section Reader
variable {ρ : Type*} [NfcReader ρ]

def polled : ℕ → ρ → ρ
  | 0, reader => reader
  | n + 1, reader => polled n (NfcReader.pollCard reader).2

def PollsSucceed (reader : ρ) : Prop :=
  ∀ n, (NfcReader.pollCard (polled n reader)).1.isOk = true

theorem PollsSucceed.next {reader : ρ} (h : PollsSucceed reader) :
    PollsSucceed (NfcReader.pollCard reader).2 := fun n => h (n + 1)

namespace CcidBridge

theorem refreshCardPresence_succeeds {b : CcidBridge ρ} (h : PollsSucceed b.reader) :
    ∃ present b', b.refreshCardPresence = (.ok present, b') ∧ PollsSucceed b'.reader := by
  have hpoll : (NfcReader.pollCard b.reader).1.isOk = true := h 0
  have hnext := h.next
  unfold refreshCardPresence
  split
  · exact ⟨true, b, rfl, h⟩
  · split
    · next heq =>
      rw [heq] at hpoll
      cases hpoll
    · next reader heq =>
      rw [heq] at hnext
      exact ⟨false, _, rfl, hnext⟩
    · next card reader heq =>
      rw [heq] at hnext
      exact ⟨true, _, rfl, hnext⟩

end CcidBridge

namespace CcidTransport

/-- Ready for the next command, with a reader that can always be polled. -/
structure Ready (t : CcidTransport (CcidBridge ρ)) : Prop where
  waits : t.Waits
  buffer : t.pendingOutBuffer = []
  noAbort : t.controlAbort = none
  polls : PollsSucceed t.bridge.value.reader

theorem handleBulkOut_status {t : CcidTransport (CcidBridge ρ)} (ht : t.Ready) :
    ∃ t', t.handleBulkOut slotStatusMessage.bytes = (.ok (), t') ∧ t'.Ready ∧
      t'.pendingInterruptFrames.length = t.pendingInterruptFrames.length + 1 := by
  obtain ⟨⟨⟨bridge, inFrames, interruptFrames, slotPresent, bulkAbort, controlAbort⟩, buffer, rfl,
    _⟩, hbuffer, hcontrol, hpolls⟩ := ht
  obtain rfl : buffer = [] := hbuffer
  obtain rfl : controlAbort = none := hcontrol
  have hpolls : PollsSucceed bridge.reader := hpolls
  obtain ⟨_, bridge', hrefresh, hreader⟩ := CcidBridge.refreshCardPresence_succeeds hpolls
  have hstatus := CcidBridge.getSlotStatus_reader bridge 0 1
  obtain ⟨response, b, hcommand⟩ : ∃ response b,
    bridge.getSlotStatus 0 1 = (response, b) := ⟨_, _, rfl⟩
  let e : Endpoint (CcidBridge ρ) :=
    ⟨bridge, inFrames, interruptFrames, slotPresent, none, none⟩
  let e' : Endpoint (CcidBridge ρ) := { e with bridge := b }.answer response b.cardPresent
  have hhandle : BridgeOps.handleCommand bridge (.getSlotStatus 0 1) = (.ok response, b) := by
    show (Except.ok (bridge.getSlotStatus 0 1).1, (bridge.getSlotStatus 0 1).2) = _
    rw [hcommand]
  have hexecute : e.execute (.getSlotStatus 0 1) = some e' := by
    unfold Endpoint.execute
    rw [hhandle]
    rfl
  have hr : Endpoint.receive ⟨bridge, inFrames, interruptFrames, slotPresent, bulkAbort, none⟩
      slotStatusMessage.command = .next e' := by
    have hmessage : slotStatusMessage.command = .getSlotStatus 0 1 := rfl
    rw [hmessage]
    unfold Endpoint.receive
    dsimp only
    rw [hexecute]
  have hcall := handleBulkOut_next scanFrame_nil slotStatusMessage.scan_bytes
    slotStatusMessage.decode_bytes scanFrame_nil hr
  refine ⟨_, hcall, ⟨⟨e', [], rfl, scanFrame_nil⟩, rfl, rfl, ?_⟩, ?_⟩
  · show PollsSucceed b.reader
    rw [hcommand, hrefresh] at hstatus
    rw [hstatus]
    exact hreader
  · show (interruptFrames ++ [_]).length = interruptFrames.length + 1
    rw [List.length_append, List.length_singleton]

theorem handleInterruptIn_ready {t : CcidTransport (CcidBridge ρ)} (ht : t.Ready) :
    (BridgeOps.refreshCardPresence t.bridge.value).1.isOk = true ∧ t.handleInterruptIn.2.Ready := by
  obtain ⟨⟨e, buffer, rfl, hb⟩, hbuffer, hcontrol, hpolls⟩ := ht
  obtain ⟨present, bridge, hrefresh, hreader⟩ := CcidBridge.refreshCardPresence_succeeds hpolls
  have hrefresh : BridgeOps.refreshCardPresence e.bridge = (.ok present, bridge) := hrefresh
  refine ⟨congrArg (fun result => result.1.isOk) hrefresh, ?_⟩
  rw [handleInterruptIn_assemble, hrefresh]
  exact ⟨⟨_, buffer, rfl, hb⟩, hbuffer, hcontrol, hreader⟩

end CcidTransport

/-- The backlog stays within the bound in every run that polls after each packet and whose polls
succeed. -/
def BacklogWithin (reader : ρ) (bound : ℕ) : Prop :=
  ∀ h (t : CcidTransport (CcidBridge ρ)),
    Run (transportMachine _) (.new (.new reader)) h t →
    (∀ e ∈ h, e.output.Returns ∧ Refreshes e) →
    PolledAfterCommands (h.map Event.input) → t.pendingInterruptFrames.length ≤ bound

theorem exists_run_with_backlog {reader : ρ} (hp : PollsSucceed reader) (n : ℕ) :
    ∃ h, ∃ t : CcidTransport (CcidBridge ρ),
      Run (transportMachine _) (.new (.new reader)) h t ∧
        (∀ e ∈ h, e.output.Returns ∧ Refreshes e) ∧ PolledAfterCommands (h.map Event.input) ∧
          t.Ready ∧ t.pendingInterruptFrames.length = n := by
  induction n with
  | zero =>
    exact ⟨[], _, .start, by simp, trivial, ⟨⟨.new _, [], rfl, rfl⟩, rfl, rfl, hp⟩, rfl⟩
  | succ n ih =>
    obtain ⟨h, t, hr, hadm, hpolled, hready, hlen⟩ := ih
    obtain ⟨t', hcall, hready', hlen'⟩ := CcidTransport.handleBulkOut_status hready
    obtain ⟨hf, hready''⟩ := CcidTransport.handleInterruptIn_ready hready'
    have hafter : ((transportMachine _).event t (.bulkOut slotStatusMessage.bytes)).after = t' :=
      congrArg Prod.snd hcall
    have hround := (hr.step (.bulkOut slotStatusMessage.bytes)).step .interruptIn
    rw [hafter] at hround
    refine ⟨_, _, hround, ?_, ?_, hready'', ?_⟩
    · intro e he
      rcases List.mem_append.mp he with he | he
      · rcases List.mem_append.mp he with he | he
        · exact hadm e he
        · obtain rfl := List.mem_singleton.mp he
          have hok : (t.handleBulkOut slotStatusMessage.bytes).1 = .ok () :=
            congrArg Prod.fst hcall
          refine ⟨?_, by rintro ⟨⟩⟩
          show (TransportReply.bulkOut (t.handleBulkOut slotStatusMessage.bytes).1).Returns
          rw [hok]
          trivial
      · obtain rfl := List.mem_singleton.mp he
        exact ⟨trivial, fun _ => hf⟩
    · rw [List.append_assoc, List.map_append]
      exact polledAfterCommands_append hpolled ⟨trivial, trivial⟩
    · show t'.handleInterruptIn.2.pendingInterruptFrames.length = n + 1
      rw [handleInterruptIn_length hready'.waits hf, hlen', hlen]

/-- With a reader that can always be polled no bound on the backlog holds, however often the host
polls, and the backlog never gets shorter. -/
theorem backlog_unbounded {reader : ρ} (hp : PollsSucceed reader) :
    (∀ h s, Run (transportMachine (CcidBridge ρ)) (.new (.new reader)) h s →
      (∀ e ∈ h, e.output.Returns) → ∀ h' t, Run (transportMachine _) s h' t →
        (∀ e ∈ h', e.output.Returns ∧ Refreshes e) →
          s.pendingInterruptFrames.length ≤ t.pendingInterruptFrames.length) ∧
      ¬ ∃ bound, BacklogWithin reader bound := by
  constructor
  · intro h s hs hreturns h' t ht hadm
    exact run_backlog (reachable_waits ⟨h, hs, hreturns⟩) ht hadm
  · rintro ⟨bound, hbound⟩
    obtain ⟨h, t, hr, hadm, hpolled, _, hlen⟩ := exists_run_with_backlog hp (bound + 1)
    have := hbound h t hr hadm hpolled
    omega

end Reader

theorem pollsSucceed_dummy (reader : DummyReader) : PollsSucceed reader := by
  intro n
  obtain ⟨cardPresent, applet⟩ := polled n reader
  cases cardPresent <;> rfl

/-- The card of the dummy backend never leaves. -/
theorem backlog_unbounded_with_dummy :
    ¬ ∃ bound, BacklogWithin DummyReader.opened bound := by
  rintro ⟨bound, hbound⟩
  obtain ⟨h, t, hr, hadm, hpolled, _, hlen⟩ :=
    exists_run_with_backlog (pollsSucceed_dummy DummyReader.opened) (bound + 1)
  have := hbound h t hr hadm hpolled
  omega

/-- The scripted reader with no card and an empty script. -/
theorem backlog_unbounded_without_card :
    ¬ ∃ bound, BacklogWithin (⟨[], [], []⟩ : FakeReader) bound := by
  have hempty : ∀ n, polled n (⟨[], [], []⟩ : FakeReader) = ⟨[], [], []⟩ := by
    intro n
    induction n with
    | zero => rfl
    | succ n ih => exact ih
  have hp : PollsSucceed (⟨[], [], []⟩ : FakeReader) := by
    intro n
    rw [hempty]
    rfl
  exact (backlog_unbounded hp).2

end VirtualCcid.Ccid
